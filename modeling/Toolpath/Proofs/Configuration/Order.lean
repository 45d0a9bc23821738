import Toolpath.Proofs.Configuration.Described

/-!
# Keys in another order

Keys may be written in another order, those of a document as well as those of a table inside it.
Every key then has the value that it had, or a table that differs from it in the order of its keys
only, and so the same configuration is described.
-/

namespace Toolpath

open Toml (Value Table DistinctKeys)

namespace Schema

/-- The same keys with the same values in another order: in the table itself, or in a table that is
the value of one of its keys. -/
inductive Reordered : Table → Table → Prop where
  /-- The keys of the table itself. -/
  | keys {table other : Table} : table.Perm other → Reordered table other
  /-- The keys of a table under a key. -/
  | within {before after : Table} {key : String} {entries others : Table} : entries.Perm others →
      Reordered (before ++ (key, .table entries) :: after) (before ++ (key, .table others) :: after)
  /-- One after the other. -/
  | trans {first second third : Table} : Reordered first second → Reordered second third →
      Reordered first third

/-- Values that differ at most in the order of their keys. -/
inductive Alike : Value → Value → Prop where
  /-- They do not differ. -/
  | refl (value : Value) : Alike value value
  /-- They are tables with the same entries. -/
  | table {entries others : Table} : DistinctKeys entries → entries.Perm others →
      Alike (.table entries) (.table others)

/-- What is found twice is alike. -/
theorem alike_refl (found : Option Value) : Option.Rel Alike found found := by
  cases found with
  | none => exact .none
  | some value => exact .some (.refl value)

section Alike

variable {β : Type} {Means : Value → β → Prop} {key : String} {table other : Table}
  {standard part : β}

/-- What alike tables say is the same where alike values mean the same. -/
theorem Says.alike (hmeans : ∀ {value value'}, Alike value value' → Means value part →
      Means value' part)
    (halike : Option.Rel Alike (table.get? key) (other.get? key)) (h : Says Means key table part) :
    Says Means key other part := by
  obtain ⟨value, hvalue, hpart⟩ := h
  rw [hvalue] at halike
  cases hother : other.get? key with
  | none => rw [hother] at halike; cases halike
  | some value' =>
    rw [hother] at halike
    obtain ⟨hvalues⟩ := halike
    exact ⟨value', hother, hmeans hvalues hpart⟩

/-- The same if the key may be left out. -/
theorem SaysOr.alike (hmeans : ∀ {value value'}, Alike value value' → Means value part →
      Means value' part)
    (halike : Option.Rel Alike (table.get? key) (other.get? key))
    (h : SaysOr Means key standard table part) : SaysOr Means key standard other part := by
  refine h.imp (Says.alike hmeans halike) fun ⟨hmissing, hpart⟩ => ⟨?_, hpart⟩
  rw [hmissing] at halike
  cases hother : other.get? key with
  | none => rfl
  | some value' => rw [hother] at halike; cases halike

end Alike

variable {value value' : Value}

/-- Numbers have no keys. -/
theorem IsNumber.alike {x : Float} (h : Alike value value') (hx : IsNumber value x) :
    IsNumber value' x := by
  cases h with
  | refl => exact hx
  | table => cases hx

/-- Natural numbers have no keys. -/
theorem IsNatural.alike {bound n : Nat} (h : Alike value value') (hn : IsNatural bound value n) :
    IsNatural bound value' n := by
  cases h with
  | refl => exact hn
  | table => cases hn.2

/-- The order of the keys of a drive is of no account. -/
theorem IsDrive.alike {config : DriveConfig Float} (h : Alike value value')
    (hconfig : IsDrive value config) : IsDrive value' config := by
  cases h with
  | refl => exact hconfig
  | table distinct perm =>
    cases hconfig with
    | table hknown hkind hratios =>
      refine .table (fun entry hentry => hknown entry (perm.mem_iff.mpr hentry)) ?_ ?_
      · rwa [SaysOr, Says, Table.get?_perm distinct perm]
      · rwa [Says, Table.get?_perm distinct perm]

/-- Tables whose keys have alike values describe the same configurations. -/
theorem Describes.alike {table other : Table} {config : Configuration Float}
    (halike : ∀ key, Option.Rel Alike (table.get? key) (other.get? key))
    (h : Describes table config) : Describes other config where
  known entry hentry := by
    by_contra hkey
    have hmissing : table.get? entry.1 = none :=
      Table.get?_eq_none_iff.mpr fun earlier hearlier heq => hkey (heq ▸ h.known earlier hearlier)
    have hother := halike entry.1
    rw [hmissing] at hother
    cases hfound : other.get? entry.1 with
    | none => exact Table.get?_eq_none_iff.mp hfound entry hentry rfl
    | some value => rw [hfound] at hother; cases hother
  feedRate := h.feedRate.alike IsNumber.alike (halike _)
  seekRate := h.seekRate.alike IsNumber.alike (halike _)
  lineSegmentLength := h.lineSegmentLength.alike IsNumber.alike (halike _)
  arcSegmentLength := h.arcSegmentLength.alike IsNumber.alike (halike _)
  interval := h.interval.alike IsNatural.alike (halike _)
  poll := h.poll.alike IsNatural.alike (halike _)
  drive := h.drive.alike IsDrive.alike (halike _)

namespace Reordered

variable {table other : Table}

/-- Another order can be undone. -/
theorem symm (h : Reordered table other) : Reordered other table := by
  induction h with
  | keys perm => exact .keys perm.symm
  | within perm => exact .within perm.symm
  | trans _ _ ihfirst ihsecond => exact ihsecond.trans ihfirst

/-- In another order distinct keys are still distinct. -/
theorem distinct (h : Reordered table other) (hdistinct : Value.Distinct (.table table)) :
    Value.Distinct (.table other) := by
  induction h with
  | keys perm =>
    obtain ⟨hkeys, hvalues⟩ := hdistinct.of_table
    exact .table ((perm.map Prod.fst).nodup hkeys) fun entry hentry =>
      hvalues entry (perm.mem_iff.mpr hentry)
  | @within before after key entries others perm =>
    obtain ⟨hkeys, hvalues⟩ := hdistinct.of_table
    rw [List.forall_mem_append, List.forall_mem_cons] at hvalues
    obtain ⟨hbefore, hentries, hafter⟩ := hvalues
    obtain ⟨hinner, hdrafts⟩ := hentries.of_table
    have hothers : Value.Distinct (.table others) :=
      .table ((perm.map Prod.fst).nodup hinner) fun entry hentry =>
        hdrafts entry (perm.mem_iff.mpr hentry)
    refine .table ?_ (List.forall_mem_append.mpr
      ⟨hbefore, List.forall_mem_cons.mpr ⟨hothers, hafter⟩⟩)
    rw [DistinctKeys, List.map_append, List.map_cons] at hkeys ⊢
    exact hkeys
  | trans _ _ ihfirst ihsecond => exact ihsecond (ihfirst hdistinct)

/-- In another order the same configuration is described. -/
theorem describes (h : Reordered table other) (hdistinct : Value.Distinct (.table table))
    {config : Configuration Float} (hconfig : Describes table config) : Describes other config := by
  induction h with
  | keys perm =>
    refine hconfig.alike fun key => ?_
    rw [Table.get?_perm hdistinct.of_table.1 perm]
    exact alike_refl _
  | @within before after key entries others perm =>
    refine hconfig.alike fun asked => ?_
    have hvalues := hdistinct.of_table.2
    have hentries := (hvalues (key, .table entries)
      (List.mem_append_right before List.mem_cons_self)).of_table.1
    rw [Table.get?, Table.get?, List.lookup_append, List.lookup_append]
    cases List.lookup asked before with
    | some value => exact alike_refl _
    | none =>
      rw [Option.none_or, Option.none_or, List.lookup_cons, List.lookup_cons]
      cases asked == key with
      | true => exact .some (.table hentries perm)
      | false => exact alike_refl _
  | trans hfirst _ ihfirst ihsecond =>
    exact ihsecond (hfirst.distinct hdistinct) (ihfirst hdistinct hconfig)

end Reordered

end Schema

end Toolpath
