import Toolpath.Proofs.Toml.Distinct

/-!
# What readers yield

A property of results goes through the combinators of readers. With it the tables of a text have
distinct keys: a table in braces is refused when a key is given twice, and so is a document.
-/

namespace Toolpath.Toml

namespace Reader

variable {β γ : Type} {reader other : Reader β} {Good : β → Prop}

/-- Whatever a reader takes off the front of a list, its result is good. -/
def Yields (Good : β → Prop) (reader : Reader β) : Prop :=
  ∀ input result rest, reader input = some (result, rest) → Good result

/-- A given result is good. -/
theorem yields_pure {result : β} (h : Good result) : Yields Good (pure result) := by
  intro input final rest hread
  obtain ⟨rfl, -⟩ := Prod.mk.inj (Option.some.inj hread)
  exact h

/-- A reader that fails has no results. -/
theorem yields_failure : Yields Good failure := nofun

/-- In a sequence only the last reader has to yield good results, after whatever the first one
yields. -/
theorem Yields.bind {first : Reader γ} {Fair : γ → Prop} {next : γ → Reader β}
    (hfirst : Yields Fair first) (hnext : ∀ found, Fair found → Yields Good (next found)) :
    Yields Good (first >>= next) := by
  intro input result rest hread
  obtain ⟨⟨found, between⟩, hfound, hread⟩ := Option.bind_eq_some_iff.mp hread
  exact hnext found (hfirst _ _ _ hfound) _ _ _ hread

/-- Of a reader about which nothing is known, nothing is asked. -/
theorem yields_any (reader : Reader β) : Yields (fun _ => True) reader :=
  fun _ _ _ _ => trivial

/-- In a sequence it may not matter at all what the first reader yields. -/
theorem yields_bind {first : Reader γ} {next : γ → Reader β}
    (hnext : ∀ found, Yields Good (next found)) : Yields Good (first >>= next) :=
  (yields_any first).bind fun found _ => hnext found

/-- Of two readers either may be the one that yields. -/
theorem Yields.orElse (hfirst : Yields Good reader) (hsecond : Yields Good other) :
    Yields Good (reader <|> other) := by
  intro input result rest hread
  change (reader input).orElse (fun _ => other input) = _ at hread
  cases hfound : reader input with
  | some found => exact hfirst _ _ _ (hfound.trans (by rwa [hfound] at hread))
  | none => exact hsecond _ _ _ (by rwa [hfound] at hread)

/-- Results that are made to be good are good. -/
theorem yields_map {first : Reader γ} {make : γ → β} (hmake : ∀ found, Good (make found)) :
    Yields Good (make <$> first) := by
  intro input result rest hread
  obtain ⟨⟨found, between⟩, hfound, hread⟩ := Option.bind_eq_some_iff.mp hread
  obtain ⟨rfl, -⟩ := Prod.mk.inj (Option.some.inj hread)
  exact hmake found

/-- What follows a good result leaves it good. -/
theorem Yields.before (h : Yields Good reader) (after : Reader γ) :
    Yields Good (reader <* after) :=
  h.bind fun _ hgood => yields_bind fun _ => yields_pure hgood

/-- What precedes a good result leaves it good. -/
theorem Yields.after (h : Yields Good reader) (before : Reader γ) :
    Yields Good (before *> reader) :=
  yields_bind fun _ => h

/-- All results of a reader that is applied over and over are good. -/
theorem Yields.many (h : Yields Good reader) :
    Yields (fun results => ∀ result ∈ results, Good result) (many reader) := by
  have hcollect (count : Nat) (input : List Char) :
      ∀ result ∈ (collect reader count input).1, Good result := by
    induction count generalizing input with
    | zero => exact List.forall_mem_nil _
    | succ count ih =>
      rw [collect]
      split
      · exact List.forall_mem_nil _
      · rename_i hread
        exact List.forall_mem_cons.mpr ⟨h _ _ _ hread, ih _⟩
  intro input results rest hread
  obtain ⟨rfl, -⟩ := Prod.mk.inj (Option.some.inj hread)
  exact hcollect input.length input

/-- All results of a reader with separators between them are good. -/
theorem Yields.separated1 (h : Yields Good reader) (separator : Reader Unit) :
    Yields (fun results => ∀ result ∈ results, Good result) (separated1 reader separator) :=
  h.bind fun _ hfirst => (h.after separator).many.bind fun _ hrest =>
    yields_pure (List.forall_mem_cons.mpr ⟨hfirst, hrest⟩)

/-- No results at all may stand in for good ones. -/
theorem Yields.orEmpty {several : Reader (List β)}
    (h : Yields (fun results => ∀ result ∈ results, Good result) several) :
    Yields (fun results => ∀ result ∈ results, Good result) (several <|> pure []) :=
  h.orElse (yields_pure (List.forall_mem_nil _))

end Reader

open Reader Draft

variable {item : Reader Value}

/-- Values that hold no others hold no table. -/
theorem yields_simpleValue : Yields Value.Distinct simpleValue := by
  unfold simpleValue
  refine .orElse ?_ (.orElse ?_ (.orElse ?_ (.orElse ?_ (.orElse ?_ ?_))))
  · exact yields_map Value.Distinct.string
  · exact yields_map fun _ => .moment
  · exact yields_map Value.Distinct.float
  · exact yields_map Value.Distinct.integer
  · exact yields_map fun _ => .boolean true
  · exact yields_map fun _ => .boolean false

/-- A list in brackets holds the tables of its items. -/
theorem yields_arrayOf (hitem : Yields Value.Distinct item) :
    Yields Value.Distinct (arrayOf item) := by
  have hitems := ((hitem.before gap).after gap).separated1 (char ',')
  have hlist := (hitems.before (discard (perhaps (char ',')))).orEmpty
  exact yields_bind fun _ => hlist.bind fun items hgood =>
    yields_bind fun _ => yields_bind fun _ => yields_pure (.array hgood)

/-- The value of an assignment is one that was read. -/
theorem yields_assignment (hitem : Yields Value.Distinct item) :
    Yields (fun a => a.value.Distinct) (assignment item) :=
  yields_bind fun _ => yields_bind fun _ => yields_bind fun _ => hitem.bind fun _ hvalue =>
    yields_pure hvalue

/-- A table in braces gives no key twice. -/
theorem yields_tableOf (hitem : Yields Value.Distinct item) :
    Yields Value.Distinct (tableOf item) := by
  have hassignments := ((yields_assignment hitem).before blanks).separated1 (char ',')
  refine yields_bind fun _ => hassignments.orEmpty.bind fun assignments hgood => ?_
  refine yields_bind fun _ => yields_bind fun _ => ?_
  split
  · rename_i entries hentries
    exact yields_pure (distinctEntries_nil.assignAll hgood hentries).finish
  · exact yields_failure

/-- No value gives a key twice. -/
theorem yields_value (levels : Nat) : Yields Value.Distinct (value levels) := by
  induction levels with
  | zero => exact yields_simpleValue
  | succ levels ih =>
    exact yields_simpleValue.orElse ((yields_arrayOf ih).orElse (yields_tableOf ih))

/-- A line that assigns a value assigns one without keys given twice. -/
def Line.Distinct : Line → Prop
  | .assignment a => a.value.Distinct
  | _ => True

/-- No line of a document gives a key twice within its value. -/
theorem yields_lines : Yields (fun lines => ∀ line ∈ lines, line.Distinct) lines := by
  have hassignment : Yields Line.Distinct assignmentLine :=
    (yields_assignment (yields_value maxNesting)).bind fun _ hvalue =>
      yields_bind fun _ => yields_pure hvalue
  have hline : Yields Line.Distinct
      (blankLine <|> elementHeader <|> tableHeader <|> assignmentLine) := by
    refine .orElse ?_ (.orElse ?_ (.orElse ?_ hassignment))
    · exact yields_bind fun _ => yields_pure trivial
    · exact yields_bind fun _ => yields_bind fun _ => yields_bind fun _ => yields_bind fun _ =>
        yields_pure trivial
    · exact yields_bind fun _ => yields_bind fun _ => yields_bind fun _ => yields_bind fun _ =>
        yields_pure trivial
  exact yields_bind fun _ => yields_bind fun _ => (hline.before blanks).many.bind fun _ hlines =>
    yields_bind fun _ => yields_pure hlines

/-- A section has distinct values when the lines have, and so have the lines after it. -/
theorem distinct_section? {lines : List Line} (h : ∀ line ∈ lines, line.Distinct) :
    (∀ a ∈ (section? lines).1, a.value.Distinct) ∧
      ∀ line ∈ (section? lines).2, line.Distinct := by
  fun_induction section? lines with
  | case1 a rest assignments tail hsection ih =>
    rw [List.forall_mem_cons] at h
    rw [hsection] at ih
    obtain ⟨hassignments, htail⟩ := ih h.2
    exact ⟨List.forall_mem_cons.mpr ⟨h.1, hassignments⟩, htail⟩
  | case2 rest ih => exact ih (List.forall_mem_cons.mp h).2
  | case3 rest => exact ⟨List.forall_mem_nil _, h⟩

/-- Filling in sections keeps keys distinct. -/
theorem distinct_addSections {lines : List Line} {entries after : Entries}
    (hentries : DistinctEntries entries) (hlines : ∀ line ∈ lines, line.Distinct)
    (hafter : addSections entries lines = some after) : DistinctEntries after := by
  fun_induction addSections entries lines with
  | case1 => exact Option.some.inj hafter ▸ hentries
  | case2 entries path key rest ih =>
    obtain ⟨hassignments, hrest⟩ := distinct_section? (List.forall_mem_cons.mp hlines).2
    obtain ⟨next, hnext, hafter⟩ := Option.bind_eq_some_iff.mp hafter
    exact ih next (hentries.addTable hassignments hnext) hrest hafter
  | case3 entries path key rest ih =>
    obtain ⟨hassignments, hrest⟩ := distinct_section? (List.forall_mem_cons.mp hlines).2
    obtain ⟨next, hnext, hafter⟩ := Option.bind_eq_some_iff.mp hafter
    exact ih next (hentries.addElement hassignments hnext) hrest hafter
  | case4 entries rest line hnotTable hnotElement ih =>
    exact ih hentries (List.forall_mem_cons.mp hlines).2 hafter

/-- No key of a document is given twice, neither in the document nor in a table inside it. -/
theorem distinct_of_parse? {text : String} {table : Table} (h : parse? text = some table) :
    Value.Distinct (.table table) := by
  rw [parse?] at h
  split at h
  · rename_i lines rest hlines
    have hgood := distinct_section? (yields_lines _ _ _ hlines)
    obtain ⟨own, hown, h⟩ := Option.bind_eq_some_iff.mp h
    obtain ⟨entries, hentries, h⟩ := Option.bind_eq_some_iff.mp h
    obtain rfl := Option.some.inj h
    have hown := distinctEntries_nil.assignAll hgood.1 hown
    exact (distinct_addSections hown hgood.2 hentries).finish
  · cases h

end Toolpath.Toml
