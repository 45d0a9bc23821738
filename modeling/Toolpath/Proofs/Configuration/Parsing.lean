import Toolpath.Configuration.Loading
import Toolpath.Proofs.Configuration.Order
import Toolpath.Proofs.Configuration.Usable
import Toolpath.Proofs.Toml.Reading

/-!
# Configurations of documents

A document is accepted when it describes a configuration that can be used. One that describes no
configuration is a misfit; only one that describes a configuration can fail the check of its values.
-/

namespace Toolpath

open Toml (Value Table)

namespace Configuration

/-- Configuration from the table of a document. -/
def ofTable (table : Table) : Except (ConfigFault Float) (Configuration Float) :=
  match Schema.config table with
  | .error misfit => .error (.misfit (.ofString misfit.message))
  | .ok config =>
    match config.fault? with
    | some fault => .error fault
    | none => .ok config

/-- A text that is no document is malformed. -/
theorem parse_of_no_table {text : String} (h : Toml.parse? text = none) :
    parse text = .error .malformed := by
  rw [parse, h]

/-- A text that is a document is read as its table. -/
theorem parse_of_table {text : String} {table : Table} (h : Toml.parse? text = some table) :
    parse text = ofTable table := by
  rw [parse, h]
  rfl

/-- A configuration that a table describes is checked. -/
theorem ofTable_of_config {table : Table} {config : Configuration Float}
    (h : Schema.config table = .ok config) :
    ofTable table = config.verdict.map fun _ => config := by
  rw [ofTable, h, verdict]
  dsimp only
  cases config.fault? <;> rfl

/-- What does not fit about a table is reported. -/
theorem ofTable_of_misfit {table : Table} {misfit : Misfit}
    (h : Schema.config table = .error misfit) :
    ofTable table = .error (.misfit (.ofString misfit.message)) := by
  rw [ofTable, h]

/-- Accepted is exactly the configuration that a table describes, provided that it is usable. -/
theorem ofTable_eq_ok_iff {table : Table} (distinct : Value.Distinct (.table table))
    {config : Configuration Float} :
    ofTable table = .ok config ↔ Schema.Describes table config ∧ config.verdict = .ok () := by
  rw [← Schema.config_eq_ok_iff distinct]
  cases hread : Schema.config table with
  | error misfit =>
    rw [ofTable_of_misfit hread]
    exact ⟨nofun, nofun⟩
  | ok described =>
    rw [ofTable_of_config hread, Except.ok.injEq]
    constructor
    · intro h
      cases hverdict : described.verdict with
      | error fault => rw [hverdict] at h; cases h
      | ok _ =>
        rw [hverdict] at h
        obtain rfl := Except.ok.inj h
        exact ⟨rfl, hverdict⟩
    · rintro ⟨rfl, hverdict⟩
      rw [hverdict]
      rfl

/-- The fault of an unusable configuration is reported if a table describes it. -/
theorem ofTable_of_describes {table : Table} (distinct : Value.Distinct (.table table))
    {config : Configuration Float} {fault : ConfigFault Float}
    (h : Schema.Describes table config) (hverdict : config.verdict = .error fault) :
    ofTable table = .error fault := by
  rw [ofTable_of_config ((Schema.config_eq_ok_iff distinct).mpr h), hverdict]
  rfl

/-- Another order of the keys changes neither acceptance nor the accepted configuration. -/
theorem ofTable_eq_ok_iff_of_reordered {table other : Table}
    (distinct : Value.Distinct (.table table)) (h : Schema.Reordered table other)
    {config : Configuration Float} :
    ofTable other = .ok config ↔ ofTable table = .ok config := by
  rw [ofTable_eq_ok_iff distinct, ofTable_eq_ok_iff (h.distinct distinct)]
  exact and_congr_left fun _ => ⟨h.symm.describes (h.distinct distinct), h.describes distinct⟩

/-- The required keys of a small machine, then a drive whose ratios are the items of a list. -/
def smallTable (items : List Value) : Table :=
  [("default_feed_rate", .integer 6000), ("default_seek_rate", .float 12000.0),
    ("mm_per_line_segment", .float 5.0), ("mm_per_arc_segment", .float 0.5),
    ("kinematics", .table [("steps_per_mm", .array items false),
      ("solution", .string "cartesian")])]

/-- In the table of a small machine no key is given twice. -/
theorem distinct_smallTable {items : List Value} (h : ∀ item ∈ items, item.Distinct) :
    Value.Distinct (.table (smallTable items)) := by
  have hdrive : Value.Distinct (.table [("steps_per_mm", .array items false),
      ("solution", .string "cartesian")]) := by
    refine .table (by decide : List.Nodup ["steps_per_mm", "solution"]) ?_
    simp only [List.forall_mem_cons]
    exact ⟨.array h, .string _, List.forall_mem_nil _⟩
  refine .table (by decide : List.Nodup ["default_feed_rate", "default_seek_rate",
    "mm_per_line_segment", "mm_per_arc_segment", "kinematics"]) ?_
  simp only [smallTable, List.forall_mem_cons]
  exact ⟨.integer _, .float _, .float _, .float _, hdrive, List.forall_mem_nil _⟩

/-- The configuration of a small machine. -/
def small (ratios : PerAxis Float) : Configuration Float where
  feedRate := ⟨Float.ofInt 6000⟩
  seekRate := ⟨12000.0⟩
  lineSegmentLength := ⟨5.0⟩
  arcSegmentLength := ⟨0.5⟩
  correctionInterval := standardInterval
  poll := standardPoll
  drive := ⟨.cartesian, ratios⟩

/-- The table of a small machine describes its configuration. -/
theorem describes_smallTable {items : List Value} {ratios : PerAxis Float}
    (h : Schema.IsRatios (.array items false) ratios) :
    Schema.Describes (smallTable items) (small ratios) where
  known := by
    simp only [smallTable, List.forall_mem_cons]
    decide
  feedRate := ⟨_, rfl, .integer 6000⟩
  seekRate := ⟨_, rfl, .float 12000.0⟩
  lineSegmentLength := ⟨_, rfl, .float 5.0⟩
  arcSegmentLength := ⟨_, rfl, .float 0.5⟩
  interval := .inr ⟨rfl, rfl⟩
  poll := .inr ⟨rfl, rfl⟩
  drive := by
    refine .inl ⟨_, rfl, .table ?_ (.inl ⟨_, rfl, .name⟩) ⟨_, rfl, h⟩⟩
    simp only [List.forall_mem_cons]
    decide

/-- The ratios of a small machine. -/
def smallRatios : PerAxis Float := ⟨80.0, 80.0, Float.ofInt 1600⟩

/-- The ratios of a small machine as items of a list. -/
def smallItems : List Value := [.float 80.0, .float 80.0, .integer 1600]

/-- A list that begins with the ratios of a small machine is read as these. -/
theorem isRatios_smallItems (rest : List Value) :
    Schema.IsRatios (.array (smallItems ++ rest) false) smallRatios :=
  .array rest false (.float 80.0) (.float 80.0) (.integer 1600)

/-- The ratios of a small machine hold no table. -/
theorem distinct_of_mem_smallItems : ∀ item ∈ smallItems, item.Distinct := by
  simp only [smallItems, List.forall_mem_cons]
  exact ⟨.float _, .float _, .integer _, List.forall_mem_nil _⟩

/-- A small machine is usable. -/
theorem verdict_small : (small smallRatios).verdict = .ok () := by
  rw [verdict_eq_ok_iff]
  decide

/-- The schema is enforced exactly, and independently of the order of the keys. A text that is no
document is malformed; a document has distinct keys, and its table alone decides.
A table is accepted as a configuration exactly if it describes this configuration and the
configuration is usable. To describe it the table has no other keys than the seven, has the four
required ones, and gives each key a value of its shape, which the configuration then holds; what is
left out is standard. The ratios are a list that begins with three numbers. If the configuration is
not usable, its fault is reported.
A table describes no configuration exactly if there is a misfit, and then a misfit is reported,
never a fault of values: the one of the first entry that does not fit or, if every entry fits, the
first required key that is missing. Within the table of a drive it is the same.
Another order of the keys, at the top or within a table, changes neither acceptance nor the accepted
configuration. -/
theorem parse_exact :
    (∀ text, Toml.parse? text = none → parse text = .error .malformed) ∧
    (∀ text table, Toml.parse? text = some table →
      Value.Distinct (.table table) ∧ parse text = ofTable table) ∧
    ∀ table : Table, Value.Distinct (.table table) →
      (∀ config, ofTable table = .ok config ↔
        Schema.Describes table config ∧ config.verdict = .ok ()) ∧
      (∀ config fault, Schema.Describes table config → config.verdict = .error fault →
        ofTable table = .error fault) ∧
      ((∃ config, Schema.Describes table config) ↔
        Schema.firstMisfit? Schema.configUnfit? Schema.requiredKeys table = none) ∧
      (∀ misfit,
        Schema.firstMisfit? Schema.configUnfit? Schema.requiredKeys table = some misfit →
          ofTable table = .error (.misfit (.ofString misfit.message))) ∧
      (∀ entries, table.get? "kinematics" = some (.table entries) →
        Schema.configUnfit? "kinematics" (.table entries) =
          Schema.firstMisfit? Schema.driveUnfit? ["steps_per_mm"] entries) ∧
      ∀ other, Schema.Reordered table other → ∀ config,
        ofTable other = .ok config ↔ ofTable table = .ok config := by
  refine ⟨fun text => parse_of_no_table, fun text table htext =>
    ⟨Toml.distinct_of_parse? htext, parse_of_table htext⟩, fun table distinct => ?_⟩
  obtain ⟨hkeys, hvalues⟩ := distinct.of_table
  refine ⟨fun config => ofTable_eq_ok_iff distinct,
    fun config fault => ofTable_of_describes distinct, Schema.exists_describes_iff distinct,
    fun misfit hmisfit => ?_, fun entries hentries => ?_,
    fun other hother config => ofTable_eq_ok_iff_of_reordered distinct hother⟩
  · exact ofTable_of_misfit ((Schema.config_eq_error_iff hkeys).mpr hmisfit)
  · have hdrive := hvalues _ (Table.mem_of_get? hentries)
    exact Schema.configUnfit?_table hdrive.of_table.1

/-- The table of a small machine is accepted, also with the keys in another order at both levels. -/
theorem parse_exact_small :
    Value.Distinct (.table (smallTable smallItems)) ∧
    ofTable (smallTable smallItems) = .ok (small smallRatios) ∧
    ofTable [("kinematics", .table [("solution", .string "cartesian"),
        ("steps_per_mm", .array smallItems false)]),
      ("mm_per_arc_segment", .float 0.5), ("mm_per_line_segment", .float 5.0),
      ("default_seek_rate", .float 12000.0), ("default_feed_rate", .integer 6000)] =
        .ok (small smallRatios) := by
  have hdistinct := distinct_smallTable distinct_of_mem_smallItems
  obtain ⟨hok, -, -, -, -, hreordered⟩ := parse_exact.2.2 _ hdistinct
  have haccepted : ofTable (smallTable smallItems) = .ok (small smallRatios) :=
    (hok _).mpr ⟨describes_smallTable (isRatios_smallItems []), verdict_small⟩
  have hkeys : Schema.Reordered (smallTable smallItems) (smallTable smallItems).reverse :=
    .keys (List.reverse_perm _).symm
  have hwithin := hkeys.trans (@Schema.Reordered.within [] _ "kinematics" _ _ (.swap _ _ []))
  exact ⟨hdistinct, haccepted, (hreordered _ hwithin _).mpr haccepted⟩

/-- Of several things that do not fit, the first one is reported. -/
example : Schema.firstMisfit? Schema.configUnfit? Schema.requiredKeys
    [("mm_per_arc", .float 0.5), ("default_feed_rate", .string "fast")] =
      some (.unknownField "mm_per_arc" Schema.configKeys) := rfl

/-- A list of at least so many numbers, and of nothing else. -/
def IsNumberList (least : Nat) (value : Value) : Prop :=
  ∃ items inSections, value = .array items inSections ∧ least ≤ items.length ∧
    ∀ item ∈ items, ∃ x, Schema.IsNumber item x

/-- What stands behind the first three numbers is not looked at: the ratios of a table that is
accepted need not be a list of numbers. In front of them it is, and so a list with three numbers in
it is not enough. -/
theorem ofTable_surplus :
    Value.Distinct (.table (smallTable (smallItems ++ [.string "x"]))) ∧
    ofTable (smallTable (smallItems ++ [.string "x"])) = .ok (small smallRatios) ∧
    ¬ IsNumberList 3 (.array (smallItems ++ [.string "x"]) false) ∧
    ofTable (smallTable (.string "x" :: smallItems)) =
      .error (.misfit (.ofString (Misfit.invalidType (.string "x") "f64").message)) := by
  have hdistinct : Value.Distinct (.table (smallTable (smallItems ++ [.string "x"]))) :=
    distinct_smallTable (List.forall_mem_append.mpr
      ⟨distinct_of_mem_smallItems, List.forall_mem_singleton.mpr (.string "x")⟩)
  refine ⟨hdistinct, ?_, ?_, ofTable_of_misfit rfl⟩
  · exact (ofTable_eq_ok_iff hdistinct).mpr
      ⟨describes_smallTable (isRatios_smallItems [.string "x"]), verdict_small⟩
  · rintro ⟨items, inSections, hitems, -, hnumbers⟩
    obtain ⟨rfl, rfl⟩ := Value.array.inj hitems
    obtain ⟨x, hx⟩ := hnumbers (.string "x")
      (List.mem_append_right smallItems (List.mem_singleton.mpr rfl))
    cases hx

end Configuration

end Toolpath
