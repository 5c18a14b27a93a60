import FeeOracle.Json.Decode
import Mathlib.Data.List.Perm.Subperm

/-!
# Records in documents

A record has at most one value for each of its fields, whether it is a table or a list
(`Written.HasField`). Whoever decodes a record comes by exactly these values, and nothing else in
the document has a say.
-/

namespace FeeOracle.Json

variable {α β : Type}

/-! ### Lists -/

/-- All items decode if and only if each of them does. -/
theorem mapM_eq_some_iff {items : List α} {results : List β} {decode : α → Option β} :
    items.mapM decode = some results ↔ items.map decode = results.map some := by
  induction items generalizing results with
  | nil => cases results <;> simp
  | cons item items ih =>
    simp only [List.mapM_cons, List.map_cons, bind, Option.bind_eq_some_iff, pure,
      Option.some.injEq, ih]
    constructor
    · rintro ⟨result, hresult, results, hresults, rfl⟩
      rw [hresult, hresults, List.map_cons]
    · intro h
      obtain ⟨result, rest, rfl, hresult, hrest⟩ := List.map_eq_cons_iff.1 h.symm
      exact ⟨result, hresult.symm, rest, hrest.symm, rfl⟩

theorem isSome_mapM_iff {items : List α} {decode : α → Option β} :
    (items.mapM decode).isSome = true ↔ ∀ item ∈ items, (decode item).isSome = true := by
  induction items with
  | nil => simp
  | cons item items ih =>
    rw [List.mapM_cons, List.forall_mem_cons, ← ih]
    cases decode item <;> cases items.mapM decode <;> simp

private theorem nodup_eraseDups [DecidableEq α] (items : List α) : items.eraseDups.Nodup := by
  cases items with
  | nil => exact .nil
  | cons item items =>
    rw [List.eraseDups_cons, List.nodup_cons]
    exact ⟨by simp [List.mem_eraseDups], nodup_eraseDups _⟩
termination_by items.length
decreasing_by exact Nat.lt_succ_of_le (List.length_filter_le ..)

/-- Nothing is left out if and only if nothing repeats. -/
theorem length_eraseDups_eq_iff [DecidableEq α] {items : List α} :
    items.eraseDups.length = items.length ↔ items.Nodup := by
  constructor
  · intro hlength
    have hsubperm := List.subperm_of_subset (nodup_eraseDups items) fun _ => List.mem_eraseDups.1
    exact (hsubperm.perm_of_length_le (Nat.le_of_eq hlength.symm)).nodup_iff.1
      (nodup_eraseDups items)
  · intro hnodup
    exact ((List.perm_ext_iff_of_nodup (nodup_eraseDups items) hnodup).2 fun _ =>
      List.mem_eraseDups).length_eq

/-- Where no name repeats, a name is looked up in its only entry. -/
theorem lookup_eq_some_iff_mem {entries : List (String × β)} {name : String} {value : β}
    (hnodup : (entries.map (·.1)).Nodup) :
    entries.lookup name = some value ↔ (name, value) ∈ entries := by
  induction entries with
  | nil => simp
  | cons entry entries ih =>
    obtain ⟨other, old⟩ := entry
    rw [List.map_cons, List.nodup_cons] at hnodup
    rw [List.lookup_cons, List.mem_cons, Prod.mk.injEq]
    by_cases hname : name = other
    · subst hname
      have habsent : (name, value) ∉ entries := fun hmem => hnodup.1 (List.mem_map.2 ⟨_, hmem, rfl⟩)
      simp [habsent, eq_comm]
    · rw [beq_false_of_ne hname]
      simp [hname, ih hnodup.2]

private theorem nodup_map_fst_zip {names : List String} (hnames : names.Nodup) (items : List β) :
    ((names.zip items).map (·.1)).Nodup := by
  induction names generalizing items with
  | nil => simp
  | cons name names ih =>
    cases items with
    | nil => simp
    | cons item items =>
      rw [List.nodup_cons] at hnames
      rw [List.zip_cons_cons, List.map_cons, List.nodup_cons]
      refine ⟨?_, ih hnames.2 items⟩
      intro hmem
      obtain ⟨entry, hentry, rfl⟩ := List.mem_map.1 hmem
      exact hnames.1 (List.of_mem_zip hentry).1

/-! ### Fields -/

namespace Written

/-- The table with some entries whose names are all sound. -/
def ofEntries (entries : List (String × Written)) : Written :=
  .table (entries.map fun (name, value) => (some name, value))

theorem entries?_eq_some_iff {document : Written} {entries : List (String × Written)} :
    document.entries? = some entries ↔ document = ofEntries entries := by
  cases document with
  | table written =>
    rw [entries?, mapM_eq_some_iff, ofEntries, table.injEq]
    induction written generalizing entries with
    | nil => cases entries <;> simp
    | cons entry written ih =>
      obtain ⟨name, value⟩ := entry
      cases entries with
      | nil => simp
      | cons first rest => cases name <;> simp [ih, Prod.ext_iff]
  | _ => simp [entries?, ofEntries]

/-- The document is a record with fields of the given names: a table in which none of them repeats,
    or a list that is not too long. -/
inductive IsRecord (names : List String) : Written → Prop
  | table {entries : List (String × Written)}
      (honce : ((entries.map (·.1)).filter (names.contains ·)).Nodup) :
      IsRecord names (ofEntries entries)
  | list {items : List Written} (hshort : items.length ≤ names.length) :
      IsRecord names (.list items)

/-- The value stands in a record under the name of a field, or at its place. -/
inductive HasField (names : List String) (name : String) : Written → Written → Prop
  | named {entries : List (String × Written)} {value : Written} (h : (name, value) ∈ entries) :
      HasField names name (ofEntries entries) value
  | placed {items : List Written} {value : Written} {place : Nat}
      (hname : names[place]? = some name)
      (h : items[place]? = some value) : HasField names name (.list items) value

variable {names : List String} {name : String} {document value : Written}
  {fields : List (String × Written)}

theorem fields?_eq_some_iff :
    document.fields? names = some fields ↔
      (∃ entries, document = ofEntries entries ∧ (fields.map (·.1)).Nodup ∧
        entries.filter (names.contains ·.1) = fields) ∨
      ∃ items, document = .list items ∧ items.length ≤ names.length ∧ names.zip items = fields := by
  cases document with
  | table written =>
    simp only [fields?, bind, Option.bind_eq_some_iff, entries?_eq_some_iff, reduceCtorEq,
      false_and, exists_false, or_false]
    refine exists_congr fun entries => and_congr_right fun _ => ?_
    rw [Option.ite_none_right_eq_some, Option.some.injEq, ← length_eraseDups_eq_iff,
      List.length_map]
    constructor
    · rintro ⟨hlength, rfl⟩
      exact ⟨hlength, rfl⟩
    · rintro ⟨hlength, rfl⟩
      exact ⟨hlength, rfl⟩
  | list items => simp [fields?, ofEntries]
  | _ => simp [fields?, ofEntries]

theorem ofEntries_inj {entries others : List (String × Written)} :
    ofEntries entries = ofEntries others ↔ entries = others := by
  rw [← entries?_eq_some_iff, entries?_eq_some_iff.2 rfl, Option.some.injEq]

theorem fields?_ofEntries (names : List String) (entries : List (String × Written)) :
    (ofEntries entries).fields? names =
      if ((entries.filter (names.contains ·.1)).map (·.1)).Nodup then
        some (entries.filter (names.contains ·.1))
      else none := by
  split_ifs with hnodup
  · exact fields?_eq_some_iff.2 (.inl ⟨entries, rfl, hnodup, rfl⟩)
  · rw [Option.eq_none_iff_forall_ne_some]
    intro fields hfields
    obtain ⟨others, hsame, hothers, rfl⟩ | ⟨items, hlist, -⟩ := fields?_eq_some_iff.1 hfields
    · obtain rfl := ofEntries_inj.1 hsame
      exact hnodup hothers
    · cases hlist

theorem isSome_fields?_iff : (document.fields? names).isSome = true ↔ document.IsRecord names := by
  rw [Option.isSome_iff_exists]
  simp only [fields?_eq_some_iff]
  constructor
  · rintro ⟨fields, ⟨entries, rfl, honce, rfl⟩ | ⟨items, rfl, hshort, -⟩⟩
    · exact .table (by rwa [List.filter_map])
    · exact .list hshort
  · rintro (@⟨entries, honce⟩ | @⟨items, hshort⟩)
    · exact ⟨_, .inl ⟨entries, rfl, by rwa [List.filter_map] at honce, rfl⟩⟩
    · exact ⟨_, .inr ⟨items, rfl, hshort, rfl⟩⟩

theorem hasField_ofEntries_iff {entries : List (String × Written)} :
    (ofEntries entries).HasField names name value ↔ (name, value) ∈ entries := by
  constructor
  · intro hfield
    generalize hdocument : ofEntries entries = document at hfield
    cases hfield with
    | named hmem => rwa [ofEntries_inj.1 hdocument]
    | placed => cases hdocument
  · exact .named

theorem hasField_list_iff {items : List Written} :
    (Written.list items).HasField names name value ↔
      ∃ place : Nat, names[place]? = some name ∧ items[place]? = some value := by
  constructor
  · intro hfield
    generalize hdocument : Written.list items = document at hfield
    cases hfield with
    | named => cases hdocument
    | placed hplaced hitem =>
      obtain rfl := Written.list.inj hdocument
      exact ⟨_, hplaced, hitem⟩
  · rintro ⟨place, hplaced, hitem⟩
    exact .placed hplaced hitem

/-- The fields of a record are those that it has. -/
theorem lookup_fields?_eq_some_iff (hfields : document.fields? names = some fields)
    (hnames : names.Nodup) (hname : name ∈ names) :
    fields.lookup name = some value ↔ document.HasField names name value := by
  obtain ⟨entries, rfl, hnodup, rfl⟩ | ⟨items, rfl, -, rfl⟩ := fields?_eq_some_iff.1 hfields
  · rw [lookup_eq_some_iff_mem hnodup, hasField_ofEntries_iff, List.mem_filter]
    exact and_iff_left (by simpa using hname)
  · rw [lookup_eq_some_iff_mem (nodup_map_fst_zip hnames items), hasField_list_iff,
      List.mem_iff_getElem?]
    simp only [List.getElem?_zip_eq_some]

theorem HasField.ne_null (hfield : document.HasField names name value) : document ≠ .null := by
  cases hfield <;> simp [ofEntries]

/-- A record has no more than one value for a field. -/
theorem HasField.unique {other : Written} (hfields : document.fields? names = some fields)
    (hnames : names.Nodup) (hname : name ∈ names) (hvalue : document.HasField names name value)
    (hother : document.HasField names name other) : value = other := by
  rw [← lookup_fields?_eq_some_iff hfields hnames hname] at hvalue hother
  exact Option.some.inj (hvalue.symm.trans hother)

/-- The value of a field that has to be there. -/
theorem field?_eq_some_iff {decode : Written → Option α} {result : α}
    (hfields : document.fields? names = some fields) (hnames : names.Nodup) (hname : name ∈ names) :
    field? fields name decode = some result ↔
      ∃ value, document.HasField names name value ∧ decode value = some result := by
  simp only [field?, Option.bind_eq_some_iff, lookup_fields?_eq_some_iff hfields hnames hname]

/-- A field that has to be there is at fault if it is not there or does not decode. -/
theorem isSome_field?_iff {decode : Written → Option α}
    (hfields : document.fields? names = some fields) (hnames : names.Nodup) (hname : name ∈ names) :
    (field? fields name decode).isSome = true ↔
      ∃ value, document.HasField names name value ∧ (decode value).isSome = true := by
  simp only [← lookup_fields?_eq_some_iff hfields hnames hname, field?]
  cases fields.lookup name <;> simp

/-- The value of a field that may be absent. -/
theorem fieldOr?_eq_some_iff {decode : Written → Option α} {absent result : α}
    (hfields : document.fields? names = some fields) (hnames : names.Nodup) (hname : name ∈ names) :
    fieldOr? fields name absent decode = some result ↔
      (∃ value, document.HasField names name value ∧ decode value = some result) ∨
        (∀ value, ¬ document.HasField names name value) ∧ absent = result := by
  simp only [← lookup_fields?_eq_some_iff hfields hnames hname, fieldOr?]
  cases fields.lookup name <;> simp

/-- A field that may be absent is at fault only if it is there and does not decode. -/
theorem isSome_fieldOr?_iff {decode : Written → Option α} (absent : α)
    (hfields : document.fields? names = some fields) (hnames : names.Nodup) (hname : name ∈ names) :
    (fieldOr? fields name absent decode).isSome = true ↔
      ∀ value, document.HasField names name value → (decode value).isSome = true := by
  simp only [← lookup_fields?_eq_some_iff hfields hnames hname, fieldOr?]
  cases fields.lookup name <;> simp

/-- A record is decoded for one field alone. -/
theorem bind_field?_eq_some_iff {decode : Written → Option α} {result : α} (hnames : names.Nodup)
    (hname : name ∈ names) :
    (document.fields? names >>= fun fields => field? fields name decode) = some result ↔
      document.IsRecord names ∧ ∃ value,
        document.HasField names name value ∧ decode value = some result := by
  rw [Option.bind_eq_bind, Option.bind_eq_some_iff, ← isSome_fields?_iff, Option.isSome_iff_exists]
  constructor
  · rintro ⟨fields, hfields, hfield⟩
    exact ⟨⟨fields, hfields⟩, (field?_eq_some_iff hfields hnames hname).1 hfield⟩
  · rintro ⟨⟨fields, hfields⟩, hfield⟩
    exact ⟨fields, hfields, (field?_eq_some_iff hfields hnames hname).2 hfield⟩

theorem listOf?_eq_some_iff {decode : Written → Option α} {results : List α} :
    document.listOf? decode = some results ↔
      ∃ items, document = .list items ∧ items.map decode = results.map some := by
  cases document <;> simp [listOf?, mapM_eq_some_iff]

theorem isSome_listOf?_iff {decode : Written → Option α} :
    (document.listOf? decode).isSome = true ↔
      ∃ items, document = .list items ∧ ∀ item ∈ items, (decode item).isSome = true := by
  cases document <;> simp [listOf?, isSome_mapM_iff]

theorem optional?_eq_some_iff {decode : Written → Option α} {result : Option α}
    (hpresent : document ≠ .null) :
    document.optional? decode = some result ↔
    ∃ value, decode document = some value ∧ some value = result := by
  cases document <;> simp_all [optional?]

theorem isSome_optional?_iff {decode : Written → Option α} :
    (document.optional? decode).isSome = true ↔
    document = .null ∨ (decode document).isSome = true := by
  cases document <;> simp [optional?]

end Written

/-- A text is decoded by reading it and decoding the document that it writes. -/
theorem decode_eq_ok_iff {ofWritten? : Written → Option α} {text : String} {result : α} :
    decode ofWritten? text = .ok result ↔
      ∃ document, readDocument text = .ok document ∧ ofWritten? document = some result := by
  unfold decode
  cases readDocument text with
  | error position => simp
  | ok document => cases hresult : ofWritten? document <;> simp [hresult]

end FeeOracle.Json
