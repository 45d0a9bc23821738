import Toolpath.Proofs.Configuration.Entries

/-!
# Shapes of values

What the value of each kind of key has to look like, and what it then means. The shape of a drive
is that of a table or of a list, and within a table only the values of the keys count.
-/

namespace Toolpath

open Toml (Value Table DistinctKeys)

namespace Schema

variable {β : Type}

/-- A number: an integer or a binary64 number. -/
inductive IsNumber : Value → Float → Prop where
  /-- An integer stands for the number next to it. -/
  | integer (n : Int) : IsNumber (.integer n) (Float.ofInt n)
  /-- A binary64 number stands for itself. -/
  | float (x : Float) : IsNumber (.float x) x

/-- A natural number below a bound. -/
def IsNatural (bound : Nat) (value : Value) (n : Nat) : Prop :=
  n < bound ∧ value = .integer n

/-- A natural number that fits eight bits. -/
def IsByte (value : Value) (n : UInt8) : Prop := IsNatural UInt8.size value n.toNat

/-- A natural number that fits thirty-two bits. -/
def IsWord (value : Value) (n : UInt32) : Prop := IsNatural UInt32.size value n.toNat

/-- Three numbers, one for each axis, and perhaps more behind them. -/
inductive IsRatios : Value → PerAxis Float → Prop where
  /-- A list that begins with three numbers. -/
  | array {first second third : Value} {x y z : Float} (rest : List Value) (inSections : Bool) :
    IsNumber first x → IsNumber second y → IsNumber third z →
      IsRatios (.array (first :: second :: third :: rest) inSections) ⟨x, y, z⟩

/-- Nothing: an empty table or an empty list. -/
inductive IsNothing : Value → Prop where
  /-- An empty table. -/
  | table : IsNothing (.table [])
  /-- An empty list. -/
  | array (inSections : Bool) : IsNothing (.array [] inSections)

/-- The name of a kind of drive, alone or as the only key of a table. -/
inductive IsKind : Value → DriveKind → Prop where
  /-- The name. -/
  | name : IsKind (.string "cartesian") .cartesian
  /-- The name with nothing behind it. -/
  | table {contents : Value} : IsNothing contents →
      IsKind (.table [("cartesian", contents)]) .cartesian

/-- A table has a key, and its value means a part. -/
def Says (Means : Value → β → Prop) (key : String) (table : Table) (part : β) : Prop :=
  ∃ value, table.get? key = some value ∧ Means value part

/-- A table has a key, and its value means a part; or it does not have the key, and the part is the
standard one. -/
def SaysOr (Means : Value → β → Prop) (key : String) (standard : β) (table : Table)
    (part : β) : Prop :=
  Says Means key table part ∨ table.get? key = none ∧ part = standard

/-- A drive: a table with the ratios and perhaps the kind, or a list of the kind and the ratios with
perhaps more behind them. -/
inductive IsDrive : Value → DriveConfig Float → Prop where
  /-- A table with no other keys. -/
  | table {entries : Table} {kind : DriveKind} {ratios : PerAxis Float} :
    (∀ entry ∈ entries, entry.1 ∈ driveKeys) →
    SaysOr IsKind "solution" .cartesian entries kind →
    Says IsRatios "steps_per_mm" entries ratios → IsDrive (.table entries) ⟨kind, ratios⟩
  /-- A list that begins with the two. -/
  | array {named steps : Value} {kind : DriveKind} {ratios : PerAxis Float} (rest : List Value)
    (inSections : Bool) :
    IsKind named kind → IsRatios steps ratios →
      IsDrive (.array (named :: steps :: rest) inSections) ⟨kind, ratios⟩

section Says

variable {read : Value → Except Misfit β} {Means : Value → β → Prop} {key : String}
  {table : Table} {standard part : β}

/-- A table says a part exactly if the part can be read. -/
theorem says_iff (hreads : ∀ value, table.get? key = some value →
      ∀ part, read value = .ok part ↔ Means value part) :
    Says Means key table part ↔ Fits read key table ∧ said read key table = some part := by
  have hsaid : Says Means key table part ↔ said read key table = some part :=
    said_eq_some_iff.trans (exists_congr fun value => and_congr_right fun hvalue =>
      hreads value hvalue part) |>.symm
  refine ⟨fun h => ⟨fun value hvalue => ?_, hsaid.mp h⟩, fun h => hsaid.mpr h.2⟩
  obtain ⟨other, hother, hmeans⟩ := h
  obtain rfl := Option.some.inj (hother.symm.trans hvalue)
  exact misfitOf?_eq_none_iff.mpr ⟨part, (hreads other hother part).mpr hmeans⟩

/-- A table says a part or leaves it at the standard one exactly if the part can be read or is the
standard one. -/
theorem saysOr_iff (hreads : ∀ value, table.get? key = some value →
      ∀ part, read value = .ok part ↔ Means value part) :
    SaysOr Means key standard table part ↔
      Fits read key table ∧ (said read key table).getD standard = part := by
  rw [SaysOr, says_iff hreads]
  cases hvalue : table.get? key with
  | none =>
    have hfits : Fits read key table := fun value h => nomatch hvalue.symm.trans h
    have hsaid : said read key table = none := by rw [said, hvalue]; rfl
    simp only [hsaid, hfits, reduceCtorEq, and_false, false_or, true_and, Option.getD_none, eq_comm]
  | some value =>
    simp only [reduceCtorEq, false_and, or_false]
    refine and_congr_right fun fits => ?_
    obtain ⟨known, hknown⟩ := misfitOf?_eq_none_iff.mp (fits value hvalue)
    rw [said_eq_some_iff.mpr ⟨value, hvalue, hknown⟩, Option.getD_some, Option.some.injEq]

/-- The same for a part that is changed after it was read. -/
theorem saysOr_map_iff {γ : Type} {change : β → γ} {Means : Value → γ → Prop} {standard part : γ}
    (hreads : ∀ value part, (read value).map change = .ok part ↔ Means value part) :
    SaysOr Means key standard table part ↔
      Fits read key table ∧ ((said read key table).map change).getD standard = part := by
  rw [← fits_map, ← said_map]
  exact saysOr_iff fun value _ => hreads value

end Says

/-- Numbers are read as what they stand for, and nothing else is. -/
theorem number_eq_ok_iff {value : Value} {x : Float} : number value = .ok x ↔ IsNumber value x := by
  constructor
  · intro h
    cases value with
    | integer n => exact Except.ok.inj h ▸ .integer n
    | float y => exact Except.ok.inj h ▸ .float y
    | _ => cases h
  · rintro (n | x) <;> rfl

/-- Integers below the bound are read as natural numbers, and nothing else is. -/
theorem naturalBelow_eq_ok_iff {bound : Nat} {name : String} {value : Value} {n : Nat} :
    naturalBelow bound name value = .ok n ↔ IsNatural bound value n := by
  constructor
  · intro h
    cases value with
    | integer m =>
      rw [naturalBelow] at h
      split at h
      · rename_i hm
        rw [Bool.and_eq_true, decide_eq_true_iff, decide_eq_true_iff] at hm
        obtain rfl := Except.ok.inj h
        exact ⟨by omega, by rw [Int.toNat_of_nonneg hm.1]⟩
      · cases h
    | _ => cases h
  · rintro ⟨hn, rfl⟩
    rw [naturalBelow, if_pos, Int.toNat_natCast]
    rw [Bool.and_eq_true, decide_eq_true_iff, decide_eq_true_iff]
    omega

/-- A finite type whose elements are the natural numbers below a bound is read as such. -/
theorem naturalBelow_map_eq_ok_iff {γ : Type} {bound : Nat} {name : String} {value : Value}
    {ofNat : Nat → γ} {toNat : γ → Nat} (hleft : ∀ n, n < bound → toNat (ofNat n) = n)
    (hright : ∀ c, ofNat (toNat c) = c) {c : γ} :
    (naturalBelow bound name value).map ofNat = .ok c ↔ IsNatural bound value (toNat c) := by
  rw [← naturalBelow_eq_ok_iff]
  cases hread : naturalBelow bound name value with
  | error misfit => exact ⟨nofun, nofun⟩
  | ok n =>
    have hn := (naturalBelow_eq_ok_iff.mp hread).1
    change Except.ok (ofNat n) = Except.ok c ↔ Except.ok n = Except.ok (toNat c)
    rw [Except.ok.injEq, Except.ok.injEq]
    exact ⟨fun h => h ▸ (hleft n hn).symm, fun h => h ▸ hright c⟩

/-- Natural numbers that fit eight bits are read as these. -/
theorem byte_eq_ok_iff {value : Value} {n : UInt8} :
    (naturalBelow UInt8.size "u8" value).map UInt8.ofNat = .ok n ↔ IsByte value n :=
  naturalBelow_map_eq_ok_iff (fun _ h => UInt8.toNat_ofNat_of_lt' h) fun _ => UInt8.ofNat_toNat

/-- Natural numbers that fit thirty-two bits are read as these. -/
theorem word_eq_ok_iff {value : Value} {n : UInt32} :
    (naturalBelow UInt32.size "u32" value).map UInt32.ofNat = .ok n ↔ IsWord value n :=
  naturalBelow_map_eq_ok_iff (fun _ h => UInt32.toNat_ofNat_of_lt' h) fun _ => UInt32.ofNat_toNat

/-- Lists that begin with three numbers are read as these, and nothing else is. -/
theorem ratios_eq_ok_iff {value : Value} {steps : PerAxis Float} :
    ratios value = .ok steps ↔ IsRatios value steps := by
  constructor
  · intro h
    cases value with
    | array items inSections =>
      simp only [ratios, bind_eq_ok_iff] at h
      obtain ⟨x, hx, y, hy, z, hz, hsteps⟩ := h
      obtain rfl := Except.ok.inj hsteps
      match items with
      | first :: second :: third :: rest =>
        exact .array rest inSections (number_eq_ok_iff.mp hx) (number_eq_ok_iff.mp hy)
          (number_eq_ok_iff.mp hz)
      | [_, _] => cases hz
      | [_] => cases hy
      | [] => cases hx
    | _ => cases h
  · rintro ⟨rest, inSections, hx, hy, hz⟩
    rw [← number_eq_ok_iff] at hx hy hz
    simp only [ratios, List.getElem?_cons_zero, List.getElem?_cons_succ]
    rw [hx, hy, hz]
    rfl

/-- An empty table or list has no contents, and nothing else has none. -/
theorem emptyContents_eq_ok_iff {value : Value} :
    emptyContents value = .ok () ↔ IsNothing value := by
  constructor
  · intro h
    unfold emptyContents at h
    split at h <;> first | exact .table | exact .array _ | cases h
  · rintro (_ | _) <;> rfl

/-- The one kind of drive has one name. -/
theorem kindNamed_eq_ok_iff {name : String} {named : DriveKind} :
    kindNamed name = .ok named ↔ name = "cartesian" := by
  rw [kindNamed]
  split <;> rename_i h
  · exact ⟨fun _ => h, fun _ => rfl⟩
  · exact ⟨nofun, fun hname => absurd hname h⟩

/-- Names of kinds are read as kinds, and nothing else is. -/
theorem kind_eq_ok_iff {value : Value} {named : DriveKind} :
    kind value = .ok named ↔ IsKind value named := by
  constructor
  · intro h
    cases named
    unfold kind at h
    split at h
    · rw [kindNamed_eq_ok_iff] at h
      rw [h]
      exact .name
    · cases h
    · obtain ⟨known, hknown, h⟩ := bind_eq_ok_iff.mp h
      obtain ⟨_, hnothing, -⟩ := bind_eq_ok_iff.mp h
      rw [kindNamed_eq_ok_iff] at hknown
      rw [hknown]
      exact .table (emptyContents_eq_ok_iff.mp hnothing)
    · cases h
    · cases h
  · rintro (_ | hnothing)
    · rfl
    · obtain _ | inSections := hnothing <;> rfl

/-- What is wrong with an entry of a drive. -/
def driveUnfit? (key : String) (value : Value) : Option Misfit :=
  misfitOf? (driveEntry ⟨none, none⟩ key value)

/-- The parts of a drive that a table says. -/
def driveParts (entries : Table) : DriveParts :=
  ⟨said kind "solution" entries, said ratios "steps_per_mm" entries⟩

/-- A key that a drive does not have is a misfit, whatever its value. -/
theorem driveEntry_unknown {key : String} (h : key ∉ driveKeys) (parts : DriveParts)
    (value : Value) : driveEntry parts key value = .error (.unknownField key driveKeys) := by
  simp only [driveKeys, List.mem_cons, List.not_mem_nil, or_false, not_or] at h
  unfold driveEntry
  split <;> simp_all

/-- The entries of a drive are read one at a time. -/
theorem readsEach_drive : ReadsEach driveEntry driveUnfit? driveParts where
  unfit known key value := by
    by_cases hkey : key ∈ driveKeys
    · simp only [driveKeys, List.mem_cons, List.not_mem_nil, or_false] at hkey
      rcases hkey with rfl | rfl <;>
        simp only [driveUnfit?, driveEntry, misfitOf?_bind_pure]
    · rw [driveUnfit?, driveEntry_unknown hkey, driveEntry_unknown hkey]
  read {table key value known} hnew hread := by
    by_cases hkey : key ∈ driveKeys
    · simp only [driveKeys, List.mem_cons, List.not_mem_nil, or_false] at hkey
      rcases hkey with rfl | rfl
      · obtain ⟨named, hnamed, hknown⟩ := bind_eq_ok_iff.mp hread
        obtain rfl := Except.ok.inj hknown
        rw [driveParts, driveParts, said_concat_self hnew hnamed, said_concat_of_ne (by decide)]
      · obtain ⟨steps, hsteps, hknown⟩ := bind_eq_ok_iff.mp hread
        obtain rfl := Except.ok.inj hknown
        rw [driveParts, driveParts, said_concat_self hnew hsteps, said_concat_of_ne (by decide)]
    · rw [driveEntry_unknown hkey] at hread
      cases hread

/-- Every entry of a drive fits exactly if there are no other keys and the values of the two can be
read. -/
theorem firstUnfit?_drive_eq_none_iff {entries : Table} (distinct : DistinctKeys entries) :
    firstUnfit? driveUnfit? entries = none ↔
      (∀ entry ∈ entries, entry.1 ∈ driveKeys) ∧ Fits kind "solution" entries ∧
        Fits ratios "steps_per_mm" entries := by
  have hunknown (key : String) (hkey : key ∉ driveKeys) (value : Value) :
      driveUnfit? key value ≠ none := by
    rw [driveUnfit?, driveEntry_unknown hkey]
    exact nofun
  rw [firstUnfit?_eq_none_iff_of_known distinct hunknown]
  simp only [driveKeys, List.forall_mem_cons, List.not_mem_nil, false_imp_iff, implies_true,
    and_true, driveUnfit?, driveEntry, misfitOf?_bind_pure, Fits]

/-- A drive is complete exactly if its ratios are there. -/
theorem complete_driveParts_eq_ok_iff {entries : Table} {config : DriveConfig Float} :
    (driveParts entries).complete = .ok config ↔
      (said kind "solution" entries).getD .cartesian = config.kind ∧
        said ratios "steps_per_mm" entries = some config.stepsPerMillimeter := by
  rw [DriveParts.complete, driveParts]
  cases said ratios "steps_per_mm" entries with
  | none => exact ⟨nofun, nofun⟩
  | some steps =>
    obtain ⟨named, given⟩ := config
    simp only [Except.ok.injEq, DriveConfig.mk.injEq, Option.some.injEq]

/-- A table is read as the drive that it describes, and nothing else is. -/
theorem drive_table_eq_ok_iff {entries : Table} (distinct : DistinctKeys entries)
    {config : DriveConfig Float} :
    drive (.table entries) = .ok config ↔ IsDrive (.table entries) config := by
  have hparts : driveParts [] = ⟨none, none⟩ := rfl
  rw [drive, ← hparts]
  refine (readsEach_drive.complete_eq_ok_iff distinct).trans ?_
  rw [firstUnfit?_drive_eq_none_iff distinct, complete_driveParts_eq_ok_iff]
  have hsolution : SaysOr IsKind "solution" .cartesian entries config.kind ↔ _ :=
    saysOr_iff fun value _ named => kind_eq_ok_iff
  have hsteps : Says IsRatios "steps_per_mm" entries config.stepsPerMillimeter ↔ _ :=
    says_iff fun value _ steps => ratios_eq_ok_iff
  constructor
  · rintro ⟨⟨hkeys, hkind, hratios⟩, hnamed, hgiven⟩
    exact .table hkeys (hsolution.mpr ⟨hkind, hnamed⟩) (hsteps.mpr ⟨hratios, hgiven⟩)
  · rintro ⟨hkeys, hsaysKind, hsaysRatios⟩
    obtain ⟨hkind, hnamed⟩ := hsolution.mp hsaysKind
    obtain ⟨hratios, hgiven⟩ := hsteps.mp hsaysRatios
    exact ⟨⟨hkeys, hkind, hratios⟩, hnamed, hgiven⟩

/-- What is reported of a table that describes no drive is the first entry that does not fit, or
else that the ratios are missing. -/
theorem drive_table_eq_error_iff {entries : Table} (distinct : DistinctKeys entries)
    {misfit : Misfit} :
    drive (.table entries) = .error misfit ↔
      firstMisfit? driveUnfit? ["steps_per_mm"] entries = some misfit := by
  refine readsEach_drive.complete_eq_error_iff distinct fun hunfit => ?_
  obtain ⟨-, -, hratios⟩ := (firstUnfit?_drive_eq_none_iff distinct).mp hunfit
  rw [List.find?_singleton, ← hratios.isNone_said, DriveParts.complete, driveParts]
  cases said ratios "steps_per_mm" entries with
  | none => exact error_eq_error_iff
  | some steps => exact ⟨nofun, nofun⟩

/-- A list is read as the drive that it describes, and nothing else is. -/
theorem drive_array_eq_ok_iff {items : List Value} {inSections : Bool}
    {config : DriveConfig Float} :
    drive (.array items inSections) = .ok config ↔ IsDrive (.array items inSections) config := by
  constructor
  · intro h
    match items with
    | named :: steps :: rest =>
      obtain ⟨known, hknown, h⟩ := bind_eq_ok_iff.mp h
      obtain ⟨given, hgiven, h⟩ := bind_eq_ok_iff.mp h
      obtain rfl := Except.ok.inj h
      exact .array rest inSections (kind_eq_ok_iff.mp hknown) (ratios_eq_ok_iff.mp hgiven)
    | [] => cases h
    | [named] =>
      obtain ⟨_, -, h⟩ := bind_eq_ok_iff.mp h
      cases h
  · rintro (_ | ⟨rest, _, hkind, hratios⟩)
    rw [drive, kind_eq_ok_iff.mpr hkind, ratios_eq_ok_iff.mpr hratios]
    rfl

/-- Tables with distinct keys and lists are read as the drives that they describe, and nothing else
is. -/
theorem drive_eq_ok_iff {value : Value} (distinct : value.Distinct) {config : DriveConfig Float} :
    drive value = .ok config ↔ IsDrive value config := by
  cases distinct with
  | table hkeys _ => exact drive_table_eq_ok_iff hkeys
  | array _ => exact drive_array_eq_ok_iff
  | _ => exact ⟨nofun, nofun⟩

end Schema

end Toolpath
