import Mathlib.Data.List.Induction
import Toolpath.Configuration.Schema
import Toolpath.Proofs.Toml.Distinct

/-!
# Reading a table entry by entry

A table is read from front to back, and each entry adds one part to what is known. When no key is
given twice, the parts depend on the values of the keys and not on where the entries stand; only
the misfit that is reported does, since it is that of the first entry which does not fit.
-/

namespace Toolpath

open Toml (Value Table DistinctKeys)

namespace Schema

variable {β : Type} {read : Value → Except Misfit β} {table : Table} {key other : String}
  {value : Value}

/-- What a table says under a key, read in a given way, if there is anything to read. -/
def said (read : Value → Except Misfit β) (key : String) (table : Table) : Option β :=
  (table.get? key).bind fun value => (read value).toOption

/-- A part is known exactly if the value of its key can be read as this part. -/
theorem said_eq_some_iff {part : β} :
    said read key table = some part ↔
      ∃ value, table.get? key = some value ∧ read value = .ok part := by
  have hread (value : Value) : (read value).toOption = some part ↔ read value = .ok part := by
    cases read value with
    | ok known => exact ⟨fun h => congrArg Except.ok (Option.some.inj h), fun h => by cases h; rfl⟩
    | error misfit => exact ⟨nofun, nofun⟩
  simp only [said, Option.bind_eq_some_iff, hread]

/-- The value of a new last entry is what the table says under its key. -/
theorem said_concat_self {part : β} (hnew : table.get? key = none) (hread : read value = .ok part) :
    said read key (table ++ [(key, value)]) = some part := by
  refine said_eq_some_iff.mpr ⟨value, ?_, hread⟩
  rw [Table.get?, List.lookup_append, show List.lookup key table = none from hnew]
  exact List.lookup_cons_self

/-- A last entry leaves what the table says under other keys. -/
theorem said_concat_of_ne (hne : key ≠ other) :
    said read key (table ++ [(other, value)]) = said read key table := by
  have hlast : List.lookup key [(other, value)] = none := by
    rw [List.lookup_cons, beq_false_of_ne hne, List.lookup_nil]
  rw [said, Table.get?, List.lookup_append, hlast, Option.or_none]
  rfl

/-- The misfit that a result is, if it is one. -/
def misfitOf? : Except Misfit β → Option Misfit
  | .ok _ => none
  | .error misfit => some misfit

/-- Without a misfit there is a result. -/
theorem misfitOf?_eq_none_iff {result : Except Misfit β} :
    misfitOf? result = none ↔ ∃ part, result = .ok part := by
  cases result with
  | ok part => exact ⟨fun _ => ⟨part, rfl⟩, fun _ => rfl⟩
  | error misfit => exact ⟨nofun, nofun⟩

/-- A result is a misfit exactly if this is the one that was found. -/
theorem error_eq_error_iff {found misfit : Misfit} :
    (.error found : Except Misfit β) = .error misfit ↔ some found = some misfit := by
  rw [Except.error.injEq, Option.some.injEq]

/-- Reading a part and putting it somewhere fails as the reading does. -/
theorem misfitOf?_bind_pure {P : Type} (part : Except Misfit β) (put : β → P) :
    misfitOf? (part >>= fun known => pure (put known)) = misfitOf? part := by
  cases part <;> rfl

/-- Something is read in two steps exactly if both succeed. -/
theorem bind_eq_ok_iff {γ : Type} {first : Except Misfit β} {next : β → Except Misfit γ}
    {result : γ} :
    (first >>= next) = .ok result ↔ ∃ part, first = .ok part ∧ next part = .ok result := by
  cases first with
  | ok part => exact ⟨fun h => ⟨part, rfl, h⟩, fun ⟨_, hpart, h⟩ => Except.ok.inj hpart ▸ h⟩
  | error misfit => exact ⟨nofun, nofun⟩

/-- The value of a key, if there is one, can be read. -/
def Fits (read : Value → Except Misfit β) (key : String) (table : Table) : Prop :=
  ∀ value, table.get? key = some value → misfitOf? (read value) = none

/-- When the value of a key can be read, the part is missing exactly if the key is. -/
theorem Fits.isNone_said (fits : Fits read key table) :
    (said read key table).isNone = (table.get? key).isNone := by
  cases hvalue : table.get? key with
  | none => rw [said, hvalue]; rfl
  | some value =>
    obtain ⟨part, hread⟩ := misfitOf?_eq_none_iff.mp (fits value hvalue)
    rw [said_eq_some_iff.mpr ⟨value, hvalue, hread⟩]
    rfl

section Map

variable {γ : Type} {change : β → γ}

/-- Changing what was read does not matter to whether it can be read. -/
theorem fits_map : Fits (fun value => (read value).map change) key table ↔ Fits read key table := by
  have hmap (value : Value) : misfitOf? ((read value).map change) = misfitOf? (read value) := by
    cases read value <;> rfl
  simp only [Fits, hmap]

/-- What a table says may be changed after it was read. -/
theorem said_map :
    said (fun value => (read value).map change) key table = (said read key table).map change := by
  have hmap (value : Value) :
      ((read value).map change).toOption = (read value).toOption.map change := by
    cases read value <;> rfl
  simp only [said, hmap, Option.map_bind, Function.comp_def]

end Map

/-- The misfit of the first entry that has one. -/
def firstUnfit? (misfit? : String → Value → Option Misfit) (table : Table) : Option Misfit :=
  table.findSome? fun entry => misfit? entry.1 entry.2

/-- No entry is unfit exactly if every one fits. -/
theorem firstUnfit?_eq_none_iff {misfit? : String → Value → Option Misfit} :
    firstUnfit? misfit? table = none ↔ ∀ entry ∈ table, misfit? entry.1 entry.2 = none :=
  List.findSome?_eq_none_iff

/-- When only known keys can fit, no entry is unfit exactly if all keys are known and the value of
each known key fits. -/
theorem firstUnfit?_eq_none_iff_of_known {misfit? : String → Value → Option Misfit}
    {keys : List String} (distinct : DistinctKeys table)
    (hunknown : ∀ key, key ∉ keys → ∀ value, misfit? key value ≠ none) :
    firstUnfit? misfit? table = none ↔
      (∀ entry ∈ table, entry.1 ∈ keys) ∧
        ∀ key ∈ keys, ∀ value, table.get? key = some value → misfit? key value = none := by
  rw [firstUnfit?_eq_none_iff]
  constructor
  · intro h
    refine ⟨fun entry hentry => ?_, fun key _ value hvalue => ?_⟩
    · by_contra hkey
      exact hunknown entry.1 hkey entry.2 (h entry hentry)
    · exact h (key, value) (Table.mem_of_get? hvalue)
  · rintro ⟨hkeys, hfits⟩ entry hentry
    exact hfits entry.1 (hkeys entry hentry) entry.2
      ((Table.get?_eq_some_iff distinct).mpr hentry)

/-- A last entry is looked at when those before it fit. -/
theorem firstUnfit?_concat (misfit? : String → Value → Option Misfit) :
    firstUnfit? misfit? (table ++ [(key, value)]) =
      (firstUnfit? misfit? table).or (misfit? key value) := by
  rw [firstUnfit?, List.findSome?_append, List.findSome?_singleton]
  rfl

/-- What is wrong with a table: the first entry that does not fit, or else the first of the needed
keys that is missing. -/
def firstMisfit? (misfit? : String → Value → Option Misfit) (needed : List String)
    (table : Table) : Option Misfit :=
  (firstUnfit? misfit? table).or
    ((needed.find? fun key => (table.get? key).isNone).map Misfit.missingField)

/-- Entries are read one at a time: whether an entry fits is its own affair, and one that fits adds
the part that belongs to its key. -/
structure ReadsEach {P : Type} (entry : P → String → Value → Except Misfit P)
    (misfit? : String → Value → Option Misfit) (parts : Table → P) : Prop where
  /-- What is wrong with an entry does not depend on what was read before. -/
  unfit (known : P) (key : String) (value : Value) :
    misfitOf? (entry known key value) = misfit? key value
  /-- A new entry adds to the parts that are known. -/
  read {table : Table} {key : String} {value : Value} {known : P} :
    table.get? key = none → entry (parts table) key value = .ok known →
      known = parts (table ++ [(key, value)])

/-- Reading a table ends at the first entry that does not fit, or knows all its parts. -/
theorem ReadsEach.foldlM_eq {P : Type} {entry : P → String → Value → Except Misfit P}
    {misfit? : String → Value → Option Misfit} {parts : Table → P}
    (reads : ReadsEach entry misfit? parts) (distinct : DistinctKeys table) :
    table.foldlM (fun known e => entry known e.1 e.2) (parts []) =
      match firstUnfit? misfit? table with
      | some misfit => .error misfit
      | none => .ok (parts table) := by
  -- The fold goes from front to back, so the induction adds entries at the end.
  induction table using List.reverseRecOn with
  | nil => rfl
  | append_singleton table last ih =>
    obtain ⟨key, value⟩ := last
    obtain ⟨hearlier, hnew⟩ := Toml.distinctKeys_concat.mp distinct
    rw [← Table.get?_eq_none_iff] at hnew
    rw [List.foldlM_append, ih hearlier, firstUnfit?_concat]
    cases firstUnfit? misfit? table with
    | some misfit => rfl
    | none =>
      rw [Option.none_or, ← reads.unfit (parts table)]
      change (entry (parts table) key value >>= pure) = _
      rw [bind_pure]
      cases hlast : entry (parts table) key value with
      | error misfit => rfl
      | ok known => exact congrArg Except.ok (reads.read hnew hlast)

section Completion

variable {P : Type} {entry : P → String → Value → Except Misfit P}
  {misfit? : String → Value → Option Misfit} {parts : Table → P} {needed : List String}
  {complete : P → Except Misfit β}

/-- Something is made of a table exactly if every entry fits and the parts are complete. -/
theorem ReadsEach.complete_eq_ok_iff (reads : ReadsEach entry misfit? parts)
    (distinct : DistinctKeys table) {result : β} :
    (table.foldlM (fun known e => entry known e.1 e.2) (parts []) >>= complete) = .ok result ↔
      firstUnfit? misfit? table = none ∧ complete (parts table) = .ok result := by
  rw [reads.foldlM_eq distinct]
  cases firstUnfit? misfit? table with
  | some misfit => exact ⟨nofun, nofun⟩
  | none => exact (and_iff_right rfl).symm

/-- What is reported of a table is the first entry that does not fit, or else the first needed key
that is missing, provided that the parts are completed in the order of the needed keys. -/
theorem ReadsEach.complete_eq_error_iff (reads : ReadsEach entry misfit? parts)
    (distinct : DistinctKeys table) {misfit : Misfit}
    (hcomplete : firstUnfit? misfit? table = none →
      (complete (parts table) = .error misfit ↔
        (needed.find? fun key => (table.get? key).isNone).map Misfit.missingField =
          some misfit)) :
    (table.foldlM (fun known e => entry known e.1 e.2) (parts []) >>= complete) =
        .error misfit ↔
      firstMisfit? misfit? needed table = some misfit := by
  rw [reads.foldlM_eq distinct, firstMisfit?]
  cases hunfit : firstUnfit? misfit? table with
  | some first => exact error_eq_error_iff
  | none => exact hcomplete hunfit

end Completion

end Schema

end Toolpath
