import Mathlib.Data.List.Nodup
import Toolpath.Toml.Document

/-!
# Keys are given once

In the table of a document no key is given twice, neither in the document itself nor in a table
inside it. A draft keeps this from statement to statement: a new key is put behind the others only
after a look at them, and otherwise the draft of a key takes the place of the earlier one.
-/

namespace Toolpath.Toml

/-- No key is given twice. -/
def DistinctKeys {β : Type} (entries : List (String × β)) : Prop := (entries.map Prod.fst).Nodup

namespace Table

variable {table other : Table} {key : String} {value : Value}

/-- A key without a value is not among the keys. -/
theorem get?_eq_none_iff : table.get? key = none ↔ ∀ entry ∈ table, entry.1 ≠ key := by
  simp only [get?, List.lookup_eq_none_iff, bne_iff_ne, ne_comm]

/-- The entry of a key is one of the entries. -/
theorem mem_of_get? (h : table.get? key = some value) : (key, value) ∈ table := by
  obtain ⟨before, after, hsplit, -⟩ := List.lookup_eq_some_iff.mp h
  rw [hsplit]
  exact List.mem_append_right before List.mem_cons_self

/-- Distinct keys have the values that stand next to them. -/
theorem get?_eq_some_iff (distinct : DistinctKeys table) :
    table.get? key = some value ↔ (key, value) ∈ table := by
  refine ⟨mem_of_get?, fun hmem => ?_⟩
  obtain ⟨before, after, rfl⟩ := List.append_of_mem hmem
  refine List.lookup_eq_some_iff.mpr ⟨before, after, rfl, fun entry hentry => ?_⟩
  rw [DistinctKeys, List.map_append, List.nodup_append] at distinct
  rw [bne_iff_ne]
  exact (distinct.2.2 entry.1 (List.mem_map_of_mem hentry) key List.mem_cons_self).symm

/-- With distinct keys the order of the entries is of no account to the value of a key. -/
theorem get?_perm (distinct : DistinctKeys table) (perm : table.Perm other) (key : String) :
    other.get? key = table.get? key := by
  have hother : DistinctKeys other := (perm.map Prod.fst).nodup distinct
  refine Option.ext fun value => ?_
  rw [get?_eq_some_iff hother, get?_eq_some_iff distinct, perm.mem_iff]

end Table

/-- A last key is new exactly if it is not among the others. -/
theorem distinctKeys_concat {β : Type} {entries : List (String × β)} {key : String} {value : β} :
    DistinctKeys (entries ++ [(key, value)]) ↔
      DistinctKeys entries ∧ ∀ entry ∈ entries, entry.1 ≠ key := by
  simp only [DistinctKeys, List.map_append, List.nodup_append, List.map_cons, List.map_nil,
    List.nodup_singleton, List.mem_singleton, forall_eq, true_and, List.forall_mem_map]

/-- In every table within a value no key is given twice. -/
inductive Value.Distinct : Value → Prop where
  /-- A text holds no table. -/
  | string (text : String) : Distinct (.string text)
  /-- A whole number holds no table. -/
  | integer (number : Int) : Distinct (.integer number)
  /-- A binary64 number holds no table. -/
  | float (number : Float) : Distinct (.float number)
  /-- A truth value holds no table. -/
  | boolean (value : Bool) : Distinct (.boolean value)
  /-- A date or time holds no table. -/
  | moment : Distinct .moment
  /-- A list holds the tables of its items. -/
  | array {items : List Value} {inSections : Bool} : (∀ item ∈ items, item.Distinct) →
      Distinct (.array items inSections)
  /-- A table has distinct keys, and holds the tables of its values. -/
  | table {entries : List (String × Value)} : DistinctKeys entries →
      (∀ entry ∈ entries, entry.2.Distinct) → Distinct (.table entries)

/-- A table has distinct keys, and so has every table within one of its values. -/
theorem Value.Distinct.of_table {table : Table} (h : Value.Distinct (.table table)) :
    DistinctKeys table ∧ ∀ entry ∈ table, entry.2.Distinct := by
  cases h with
  | table hkeys hvalues => exact ⟨hkeys, hvalues⟩

namespace Draft

/-- In every table within a draft no key is given twice. -/
inductive Distinct : Draft → Prop where
  /-- A value that holds none. -/
  | value {final : Value} : final.Distinct → Distinct (.value final)
  /-- A table with distinct keys. -/
  | table {origin : Origin} {entries : List (String × Draft)} : DistinctKeys entries →
      (∀ entry ∈ entries, entry.2.Distinct) → Distinct (.table origin entries)
  /-- Tables with distinct keys. -/
  | tables {elements : List (List (String × Draft))} :
      (∀ entries ∈ elements, DistinctKeys entries) →
      (∀ entries ∈ elements, ∀ entry ∈ entries, entry.2.Distinct) → Distinct (.tables elements)

/-- Entries with distinct keys, of which each holds tables with distinct keys. -/
structure DistinctEntries (entries : Entries) : Prop where
  /-- The keys are distinct. -/
  keys : DistinctKeys entries
  /-- The same within each draft. -/
  drafts : ∀ entry ∈ entries, entry.2.Distinct

variable {entries inner : Entries} {key : String} {draft : Draft}

/-- There is nothing to give twice. -/
theorem distinctEntries_nil : DistinctEntries [] := ⟨List.nodup_nil, List.forall_mem_nil _⟩

/-- The entries of a distinct table are distinct. -/
theorem Distinct.distinctEntries {origin : Origin} (h : Distinct (.table origin inner)) :
    DistinctEntries inner := by
  obtain _ | ⟨hkeys, hdrafts⟩ := h
  exact ⟨hkeys, hdrafts⟩

/-- The entries of distinct tables are distinct. -/
theorem Distinct.distinctEntries_of_mem {elements : List Entries} (h : Distinct (.tables elements))
    (hmem : inner ∈ elements) : DistinctEntries inner := by
  obtain _ | _ | ⟨hkeys, hdrafts⟩ := h
  exact ⟨hkeys inner hmem, hdrafts inner hmem⟩

/-- A table with distinct entries is distinct. -/
theorem DistinctEntries.table (h : DistinctEntries inner) (origin : Origin) :
    Distinct (.table origin inner) :=
  .table h.keys h.drafts

/-- Tables with distinct entries are distinct. -/
theorem distinct_tables {elements : List Entries} (h : ∀ inner ∈ elements, DistinctEntries inner) :
    Distinct (.tables elements) :=
  .tables (fun inner hmem => (h inner hmem).keys) (fun inner hmem => (h inner hmem).drafts)

/-- A key that was taken out is not found. -/
theorem lookup_erase : (erase key entries).lookup key = none := by
  rw [List.lookup_eq_none_iff]
  intro entry hentry
  rw [bne_comm]
  exact (List.mem_filter.mp hentry).2

namespace DistinctEntries

/-- What is found under a key of distinct entries is distinct. -/
theorem lookup (h : DistinctEntries entries) (hkey : entries.lookup key = some draft) :
    draft.Distinct := by
  obtain ⟨before, after, rfl, -⟩ := List.lookup_eq_some_iff.mp hkey
  exact h.drafts (key, draft) (List.mem_append_right before List.mem_cons_self)

/-- A new key may follow the others. -/
theorem concat (h : DistinctEntries entries) (hnew : entries.lookup key = none)
    (hdraft : draft.Distinct) : DistinctEntries (entries ++ [(key, draft)]) := by
  simp only [List.lookup_eq_none_iff, bne_iff_ne] at hnew
  refine ⟨distinctKeys_concat.mpr ⟨h.keys, fun entry hentry => (hnew entry hentry).symm⟩, ?_⟩
  rw [List.forall_mem_append]
  exact ⟨h.drafts, List.forall_mem_singleton.mpr hdraft⟩

/-- A draft may take the place of another one. -/
theorem replace (h : DistinctEntries entries) (hdraft : draft.Distinct) :
    DistinctEntries (replace key draft entries) := by
  refine ⟨?_, fun entry hentry => ?_⟩
  · have hkeys : (Draft.replace key draft entries).map Prod.fst = entries.map Prod.fst := by
      rw [Draft.replace, List.map_map]
      refine List.map_congr_left fun entry _ => ?_
      simp only [Function.comp_apply]
      split
      · rename_i hkey
        exact (eq_of_beq hkey).symm
      · rfl
    exact (congrArg List.Nodup hkeys).mpr h.keys
  · obtain ⟨earlier, hearlier, rfl⟩ := List.mem_map.mp hentry
    split
    · exact hdraft
    · exact h.drafts earlier hearlier

/-- Without a key the others are still distinct. -/
theorem erase (h : DistinctEntries entries) : DistinctEntries (erase key entries) :=
  ⟨h.keys.sublist (List.filter_sublist.map Prod.fst), fun entry hentry =>
    h.drafts entry (List.mem_of_mem_filter hentry)⟩

/-- Changing the entries at the end of a path keeps keys distinct if the change does. -/
theorem within {made : Origin} {allows : Origin → Bool}
    {change : Origin → Entries → Option Entries}
    (hchange : ∀ {origin} {before after : Entries}, DistinctEntries before →
      change origin before = some after → DistinctEntries after)
    {path : List String} {origin : Origin} {after : Entries} (h : DistinctEntries entries)
    (hafter : within made allows change path origin entries = some after) :
    DistinctEntries after := by
  -- Along the path one draft of each table is replaced by one that is distinct again; only a table
  -- that is made on the way adds a key, and it is looked for before.
  induction path generalizing origin entries after with
  | nil => exact hchange h hafter
  | cons key path ih =>
    rw [Draft.within] at hafter
    split at hafter
    · rename_i hnew
      obtain ⟨inner, hinner, hafter⟩ := Option.bind_eq_some_iff.mp hafter
      obtain rfl := Option.some.inj hafter
      exact h.concat hnew ((ih distinctEntries_nil hinner).table made)
    · cases hafter
    · rename_i origin earlier hearlier
      split at hafter
      · obtain ⟨inner, hinner, hafter⟩ := Option.bind_eq_some_iff.mp hafter
        obtain rfl := Option.some.inj hafter
        exact h.replace ((ih (h.lookup hearlier).distinctEntries hinner).table origin)
      · cases hafter
    · rename_i elements hearlier
      split at hafter
      · cases hafter
      · rename_i last hlast
        obtain ⟨inner, hinner, hafter⟩ := Option.bind_eq_some_iff.mp hafter
        obtain rfl := Option.some.inj hafter
        have helements (element : Entries) (hmem : element ∈ elements) : DistinctEntries element :=
          (h.lookup hearlier).distinctEntries_of_mem hmem
        refine h.replace (distinct_tables (List.forall_mem_append.mpr ⟨?_, ?_⟩))
        · exact fun element hmem => helements element (List.dropLast_subset _ hmem)
        · exact List.forall_mem_singleton.mpr
            (ih (helements last (List.mem_of_getLast? hlast)) hinner)

/-- Assigning a value keeps keys distinct. -/
theorem assign (h : DistinctEntries entries) {path : List String} {value : Value}
    (hvalue : value.Distinct) {after : Entries}
    (hafter : assign path key value entries = some after) : DistinctEntries after := by
  refine h.within (fun {origin before after} hbefore hassigned => ?_) hafter
  split at hassigned
  · cases hassigned
  · split at hassigned
    · cases hassigned
    · rename_i hnew
      obtain rfl := Option.some.inj hassigned
      rw [Option.not_isSome_iff_eq_none] at hnew
      exact hbefore.concat hnew (.value hvalue)

/-- Assigning values one after the other keeps keys distinct. -/
theorem assignAll (h : DistinctEntries entries) {assignments : List Assignment}
    (hvalues : ∀ a ∈ assignments, a.value.Distinct) {after : Entries}
    (hafter : assignAll assignments entries = some after) : DistinctEntries after := by
  induction assignments generalizing entries with
  | nil => exact Option.some.inj hafter ▸ h
  | cons a rest ih =>
    rw [Draft.assignAll, List.foldlM_cons] at hafter
    obtain ⟨next, hnext, hafter⟩ := Option.bind_eq_some_iff.mp hafter
    rw [List.forall_mem_cons] at hvalues
    exact ih (h.assign hvalues.1 hnext) hvalues.2 hafter

/-- The section of a table keeps keys distinct. -/
theorem addTable (h : DistinctEntries entries) {path : List String}
    {assignments : List Assignment} (hvalues : ∀ a ∈ assignments, a.value.Distinct)
    {after : Entries} (hafter : addTable path key assignments entries = some after) :
    DistinctEntries after := by
  refine h.within (fun {origin before after} hbefore hadded => ?_) hafter
  split at hadded
  · rename_i hnew
    obtain ⟨inner, hinner, hadded⟩ := Option.bind_eq_some_iff.mp hadded
    obtain rfl := Option.some.inj hadded
    exact hbefore.concat hnew ((distinctEntries_nil.assignAll hvalues hinner).table .header)
  · rename_i earlier hearlier
    obtain ⟨inner, hinner, hadded⟩ := Option.bind_eq_some_iff.mp hadded
    obtain rfl := Option.some.inj hadded
    have hinner := (hbefore.lookup hearlier).distinctEntries.assignAll hvalues hinner
    exact hbefore.erase.concat lookup_erase (hinner.table .header)
  · cases hadded

/-- The section of one more table of an array keeps keys distinct. -/
theorem addElement (h : DistinctEntries entries) {path : List String}
    {assignments : List Assignment} (hvalues : ∀ a ∈ assignments, a.value.Distinct)
    {after : Entries} (hafter : addElement path key assignments entries = some after) :
    DistinctEntries after := by
  refine h.within (fun {origin before after} hbefore hadded => ?_) hafter
  split at hadded
  · rename_i hnew
    obtain ⟨inner, hinner, hadded⟩ := Option.bind_eq_some_iff.mp hadded
    obtain rfl := Option.some.inj hadded
    have hinner := distinctEntries_nil.assignAll hvalues hinner
    exact hbefore.concat hnew (distinct_tables (List.forall_mem_singleton.mpr hinner))
  · rename_i elements hearlier
    obtain ⟨inner, hinner, hadded⟩ := Option.bind_eq_some_iff.mp hadded
    obtain rfl := Option.some.inj hadded
    refine hbefore.replace (distinct_tables (List.forall_mem_append.mpr ⟨?_, ?_⟩))
    · exact fun element hmem => (hbefore.lookup hearlier).distinctEntries_of_mem hmem
    · exact List.forall_mem_singleton.mpr (distinctEntries_nil.assignAll hvalues hinner)
  · cases hadded

end DistinctEntries

/-- Entries are finished one by one. -/
theorem finishEntries_eq_map (entries : Entries) :
    finishEntries entries = entries.map fun entry => (entry.1, finish entry.2) := by
  induction entries with
  | nil => rfl
  | cons entry rest ih => rw [finishEntries, ih, List.map_cons]

/-- Tables are finished one by one. -/
theorem finishElements_eq_map (elements : List Entries) :
    finishElements elements = elements.map fun inner => .table (finishEntries inner) := by
  induction elements with
  | nil => rfl
  | cons inner rest ih => rw [finishElements, ih, List.map_cons]

/-- Distinct keys stay so when the drafts are finished to distinct values. -/
theorem distinct_finishEntries_of (hkeys : DistinctKeys inner)
    (hvalues : ∀ entry ∈ inner, (finish entry.2).Distinct) :
    Value.Distinct (.table (finishEntries inner)) := by
  rw [finishEntries_eq_map]
  refine .table ?_ (List.forall_mem_map.mpr hvalues)
  rwa [DistinctKeys, List.map_map]

/-- A distinct draft is finished to a distinct value. -/
theorem Distinct.finish (h : draft.Distinct) : (finish draft).Distinct := by
  induction h with
  | value hfinal => exact hfinal
  | table hkeys _ ih => exact distinct_finishEntries_of hkeys ih
  | tables hkeys _ ih =>
    rw [Draft.finish, finishElements_eq_map]
    refine .array (List.forall_mem_map.mpr fun inner hmem => ?_)
    exact distinct_finishEntries_of (hkeys inner hmem) (ih inner hmem)

/-- Distinct entries are finished to a distinct table. -/
theorem DistinctEntries.finish (h : DistinctEntries entries) :
    Value.Distinct (.table (finishEntries entries)) :=
  distinct_finishEntries_of h.keys fun entry hentry => (h.drafts entry hentry).finish

end Draft

end Toolpath.Toml
