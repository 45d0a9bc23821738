import Toolpath.Proofs.Configuration.Shapes

/-!
# The configuration that a table describes

A table describes a configuration when it has no other keys than those of a configuration, has all
the required ones, and each value has the shape that belongs to its key. Reading a table finds the
configuration that it describes, or the misfit that is first in the order of the table.
-/

namespace Toolpath

open Toml (Value Table DistinctKeys)

namespace Schema

/-- A table describes a configuration. -/
structure Describes (table : Table) (config : Configuration Float) : Prop where
  /-- It has no other keys. -/
  known : ∀ entry ∈ table, entry.1 ∈ configKeys
  /-- The default feed rate is required. -/
  feedRate : Says IsNumber "default_feed_rate" table config.feedRate.value
  /-- The default seek rate is required. -/
  seekRate : Says IsNumber "default_seek_rate" table config.seekRate.value
  /-- The greatest length of a line segment is required. -/
  lineSegmentLength : Says IsNumber "mm_per_line_segment" table config.lineSegmentLength.value
  /-- The greatest length of an arc segment is required. -/
  arcSegmentLength : Says IsNumber "mm_per_arc_segment" table config.arcSegmentLength.value
  /-- The correction interval may be left out. -/
  interval : SaysOr IsByte "arc_correction_interval" Configuration.standardInterval table
    config.correctionInterval
  /-- The waiting time may be left out. -/
  poll : SaysOr IsWord "backpressure_poll_us" Configuration.standardPoll table config.poll
  /-- The drive may be left out. -/
  drive : SaysOr IsDrive "kinematics" DriveConfig.standard table config.drive

/-- Keys that a configuration must have. -/
def requiredKeys : List String :=
  ["default_feed_rate", "default_seek_rate", "mm_per_line_segment", "mm_per_arc_segment"]

/-- What is wrong with an entry of a configuration. -/
def configUnfit? (key : String) (value : Value) : Option Misfit :=
  misfitOf? (configEntry .none key value)

/-- The parts of a configuration that a table says. -/
def configParts (table : Table) : ConfigParts where
  feedRate := said number "default_feed_rate" table
  seekRate := said number "default_seek_rate" table
  lineSegmentLength := said number "mm_per_line_segment" table
  arcSegmentLength := said number "mm_per_arc_segment" table
  interval := said (naturalBelow UInt8.size "u8") "arc_correction_interval" table
  poll := said (naturalBelow UInt32.size "u32") "backpressure_poll_us" table
  drive := said drive "kinematics" table

/-- The entries of a configuration are read one at a time. -/
theorem readsEach_config : ReadsEach configEntry configUnfit? configParts where
  unfit known key value := by
    by_cases hkey : key ∈ configKeys
    · simp only [configKeys, List.mem_cons, List.not_mem_nil, or_false] at hkey
      rcases hkey with rfl | rfl | rfl | rfl | rfl | rfl | rfl <;>
        simp only [configUnfit?, configEntry, misfitOf?_bind_pure]
    · rw [configUnfit?, configEntry_unknown hkey, configEntry_unknown hkey]
  read {table key value known} hnew hread := by
    by_cases hkey : key ∈ configKeys
    · simp only [configKeys, List.mem_cons, List.not_mem_nil, or_false] at hkey
      rcases hkey with rfl | rfl | rfl | rfl | rfl | rfl | rfl
      all_goals
        obtain ⟨part, hpart, hknown⟩ := bind_eq_ok_iff.mp hread
        obtain rfl := Except.ok.inj hknown
        simp only [configParts, said_concat_self hnew hpart, said_concat_of_ne, ne_eq,
          String.reduceEq, not_false_eq_true]
    · rw [configEntry_unknown hkey] at hread
      cases hread

/-- Every entry of a configuration fits. -/
structure ConfigFits (table : Table) : Prop where
  /-- There are no other keys. -/
  known : ∀ entry ∈ table, entry.1 ∈ configKeys
  /-- The default feed rate can be read. -/
  feedRate : Fits number "default_feed_rate" table
  /-- The default seek rate can be read. -/
  seekRate : Fits number "default_seek_rate" table
  /-- The greatest length of a line segment can be read. -/
  lineSegmentLength : Fits number "mm_per_line_segment" table
  /-- The greatest length of an arc segment can be read. -/
  arcSegmentLength : Fits number "mm_per_arc_segment" table
  /-- The correction interval can be read. -/
  interval : Fits (naturalBelow UInt8.size "u8") "arc_correction_interval" table
  /-- The waiting time can be read. -/
  poll : Fits (naturalBelow UInt32.size "u32") "backpressure_poll_us" table
  /-- The drive can be read. -/
  drive : Fits Schema.drive "kinematics" table

/-- No entry of a configuration is unfit exactly if every one fits. -/
theorem firstUnfit?_config_eq_none_iff {table : Table} (distinct : DistinctKeys table) :
    firstUnfit? configUnfit? table = none ↔ ConfigFits table := by
  have hunknown (key : String) (hkey : key ∉ configKeys) (value : Value) :
      configUnfit? key value ≠ none := by
    rw [configUnfit?, configEntry_unknown hkey]
    exact nofun
  rw [firstUnfit?_eq_none_iff_of_known distinct hunknown]
  constructor
  · rintro ⟨known, hfits⟩
    simp only [configKeys, List.forall_mem_cons, configUnfit?, configEntry,
      misfitOf?_bind_pure] at hfits
    obtain ⟨feed, seek, line, arc, interval, poll, drive, -⟩ := hfits
    exact ⟨known, feed, seek, line, arc, interval, poll, drive⟩
  · rintro ⟨known, feed, seek, line, arc, interval, poll, drive⟩
    refine ⟨known, ?_⟩
    simp only [configKeys, List.forall_mem_cons, configUnfit?, configEntry, misfitOf?_bind_pure]
    exact ⟨feed, seek, line, arc, interval, poll, drive, List.forall_mem_nil _⟩

/-- A required part is there exactly if it is known. -/
theorem required_eq_ok_iff {β : Type} {key : String} {known : Option β} {part : β} :
    required key known = .ok part ↔ known = some part := by
  cases known with
  | none => exact ⟨nofun, nofun⟩
  | some found => rw [required, Except.ok.injEq, Option.some.injEq]

/-- Parts make up a configuration exactly if the required ones are there and the others are there or
standard. -/
theorem complete_eq_ok_iff {parts : ConfigParts} {config : Configuration Float} :
    parts.complete = .ok config ↔
      parts.feedRate = some config.feedRate.value ∧
      parts.seekRate = some config.seekRate.value ∧
      parts.lineSegmentLength = some config.lineSegmentLength.value ∧
      parts.arcSegmentLength = some config.arcSegmentLength.value ∧
      (parts.interval.map UInt8.ofNat).getD Configuration.standardInterval =
        config.correctionInterval ∧
      (parts.poll.map UInt32.ofNat).getD Configuration.standardPoll = config.poll ∧
      parts.drive.getD DriveConfig.standard = config.drive := by
  simp only [ConfigParts.complete, bind_eq_ok_iff, required_eq_ok_iff]
  constructor
  · rintro ⟨feed, hfeed, seek, hseek, line, hline, arc, harc, h⟩
    obtain rfl := Except.ok.inj h
    exact ⟨hfeed, hseek, hline, harc, rfl, rfl, rfl⟩
  · rintro ⟨hfeed, hseek, hline, harc, hinterval, hpoll, hdrive⟩
    refine ⟨_, hfeed, _, hseek, _, hline, _, harc, ?_⟩
    rw [hinterval, hpoll, hdrive]
    rfl

/-- A table is read as the configuration that it describes, and nothing else is. -/
theorem config_eq_ok_iff {table : Table} (distinct : Value.Distinct (.table table))
    {config : Configuration Float} :
    Schema.config table = .ok config ↔ Describes table config := by
  obtain ⟨hkeys, hvalues⟩ := distinct.of_table
  refine (readsEach_config.complete_eq_ok_iff hkeys).trans ?_
  rw [firstUnfit?_config_eq_none_iff hkeys, complete_eq_ok_iff]
  have hnumber {key : String} {x : Float} : Says IsNumber key table x ↔ _ :=
    says_iff fun value _ part => number_eq_ok_iff
  have hinterval : SaysOr IsByte "arc_correction_interval" Configuration.standardInterval table
      config.correctionInterval ↔ _ :=
    saysOr_map_iff fun _ _ => byte_eq_ok_iff
  have hpoll : SaysOr IsWord "backpressure_poll_us" Configuration.standardPoll table
      config.poll ↔ _ :=
    saysOr_map_iff fun _ _ => word_eq_ok_iff
  have hdrive : SaysOr IsDrive "kinematics" DriveConfig.standard table config.drive ↔ _ :=
    saysOr_iff fun value hvalue part =>
      drive_eq_ok_iff (hvalues _ (Table.mem_of_get? hvalue))
  constructor
  · rintro ⟨fits, hfeed, hseek, hline, harc, hi, hp, hd⟩
    exact ⟨fits.known, hnumber.mpr ⟨fits.feedRate, hfeed⟩, hnumber.mpr ⟨fits.seekRate, hseek⟩,
      hnumber.mpr ⟨fits.lineSegmentLength, hline⟩, hnumber.mpr ⟨fits.arcSegmentLength, harc⟩,
      hinterval.mpr ⟨fits.interval, hi⟩, hpoll.mpr ⟨fits.poll, hp⟩, hdrive.mpr ⟨fits.drive, hd⟩⟩
  · rintro ⟨known, hfeed, hseek, hline, harc, hi, hp, hd⟩
    rw [hnumber] at hfeed hseek hline harc
    rw [hinterval] at hi
    rw [hpoll] at hp
    rw [hdrive] at hd
    exact ⟨⟨known, hfeed.1, hseek.1, hline.1, harc.1, hi.1, hp.1, hd.1⟩, hfeed.2, hseek.2,
      hline.2, harc.2, hi.2, hp.2, hd.2⟩

/-- What is reported of a table that describes no configuration is the first entry that does not
fit, or else the first required key that is missing. -/
theorem config_eq_error_iff {table : Table} (distinct : DistinctKeys table) {misfit : Misfit} :
    Schema.config table = .error misfit ↔
      firstMisfit? configUnfit? requiredKeys table = some misfit := by
  refine readsEach_config.complete_eq_error_iff distinct fun hunfit => ?_
  -- Every entry fits, so that a part is missing exactly if its key is.
  have fits := (firstUnfit?_config_eq_none_iff distinct).mp hunfit
  simp only [requiredKeys, List.find?_cons, List.find?_nil, ← fits.feedRate.isNone_said,
    ← fits.seekRate.isNone_said, ← fits.lineSegmentLength.isNone_said,
    ← fits.arcSegmentLength.isNone_said, configParts, ConfigParts.complete]
  cases said number "default_feed_rate" table with
  | none => exact error_eq_error_iff
  | some feed =>
    cases said number "default_seek_rate" table with
    | none => exact error_eq_error_iff
    | some seek =>
      cases said number "mm_per_line_segment" table with
      | none => exact error_eq_error_iff
      | some line =>
        cases said number "mm_per_arc_segment" table with
        | none => exact error_eq_error_iff
        | some arc => exact ⟨nofun, nofun⟩

/-- A table describes a configuration exactly if there is no misfit. -/
theorem exists_describes_iff {table : Table} (distinct : Value.Distinct (.table table)) :
    (∃ config, Describes table config) ↔ firstMisfit? configUnfit? requiredKeys table = none := by
  rw [Option.eq_none_iff_forall_ne_some]
  simp only [← config_eq_ok_iff distinct, Ne, ← config_eq_error_iff distinct.of_table.1]
  cases Schema.config table with
  | ok config => exact ⟨fun _ => nofun, fun _ => ⟨config, rfl⟩⟩
  | error misfit => exact ⟨nofun, fun h => absurd rfl (h misfit)⟩

/-- What is wrong with the table of a drive is what is wrong within it. -/
theorem configUnfit?_table {entries : Table} (distinct : DistinctKeys entries) :
    configUnfit? "kinematics" (.table entries) =
      firstMisfit? driveUnfit? ["steps_per_mm"] entries := by
  refine Option.ext fun misfit => ?_
  rw [← drive_table_eq_error_iff distinct, configUnfit?, configEntry, misfitOf?_bind_pure]
  cases drive (.table entries) with
  | ok config => exact ⟨nofun, nofun⟩
  | error found => exact error_eq_error_iff.symm

end Schema

end Toolpath
