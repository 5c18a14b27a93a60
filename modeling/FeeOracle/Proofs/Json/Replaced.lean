import FeeOracle.Proofs.Json.Record

/-!
# Replaced values

Documents may be the same but for one value that fields, items and entries lead to (`Replaced`).
Whoever comes by that value through those steps reads the same from both documents, as far as the
old and the new value are read the same (`KeepsView`).
-/

namespace FeeOracle.Json

variable {α β γ : Type}

/-! ### Lists -/

/-- Items that are viewed alike can stand for each other in a list. -/
theorem map_mapM_append_cons {decode : α → Option β} {view : β → γ} {old new : α}
    (h : (decode new).map view = (decode old).map view) (before after : List α) :
    ((before ++ new :: after).mapM decode).map (List.map view) =
      ((before ++ old :: after).mapM decode).map (List.map view) := by
  simp only [List.mapM_append, List.mapM_cons, bind, pure]
  cases before.mapM decode <;> cases after.mapM decode <;>
    cases hold : decode old <;> cases hnew : decode new <;> simp_all

/-- A list is split at the place of an item. -/
theorem exists_append_of_getElem? {items : List α} {place : ℕ} {item : α}
    (h : items[place]? = some item) :
    ∃ before after, items = before ++ item :: after ∧ before.length = place := by
  obtain ⟨hlt, rfl⟩ := List.getElem?_eq_some_iff.1 h
  refine ⟨items.take place, items.drop (place + 1), ?_, by simp [Nat.le_of_lt hlt]⟩
  rw [← List.drop_eq_getElem_cons hlt, List.take_append_drop]

/-- The first entry of a name is what is looked up. -/
theorem lookup_append_cons {before : List (String × β)} {name : String}
    (hbefore : name ∉ before.map (·.1)) (value : β) (after : List (String × β)) (sought : String) :
    (before ++ (name, value) :: after).lookup sought =
      if sought = name then some value else (before ++ after).lookup sought := by
  simp only [List.lookup_append, List.lookup_cons]
  split_ifs with hsought
  · subst hsought
    have hnone : before.lookup sought = none :=
      List.lookup_eq_none_iff.2 fun entry hentry =>
        bne_iff_ne.2 fun hsame => hbefore (List.mem_map.2 ⟨entry, hentry, hsame.symm⟩)
    simp [hnone]
  · rw [beq_false_of_ne hsought]

/-! ### Documents -/

/-- A step into a document: to a field of a record, to an item of a list, or to some entry of a
    table. -/
inductive Step
  | field (names : List String) (name : String)
  | item (place : ℕ)
  | entry

/-- The documents are the same but for the value that the steps lead to. -/
inductive Replaced (value other : Written) : List Step → Written → Written → Prop
  | here : Replaced value other [] value other
  | named {names : List String} {name : String} {steps : List Step}
      {before after : List (String × Written)}
      {old new : Written} (h : Replaced value other steps old new) :
      Replaced value other (.field names name :: steps)
        (.ofEntries (before ++ (name, old) :: after))
        (.ofEntries (before ++ (name, new) :: after))
  | placed {names : List String} {name : String} {steps : List Step} {before after : List Written}
      {old new : Written} (hname : names[before.length]? = some name)
        (h : Replaced value other steps old new) :
      Replaced value other (.field names name :: steps) (.list (before ++ old :: after))
        (.list (before ++ new :: after))
  | item {place : ℕ} {steps : List Step} {before after : List Written} {old new : Written}
      (hplace : before.length = place) (h : Replaced value other steps old new) :
      Replaced value other (.item place :: steps) (.list (before ++ old :: after))
        (.list (before ++ new :: after))
  | entry {name : String} {steps : List Step} {before after : List (String × Written)}
      {old new : Written}
      (h : Replaced value other steps old new) :
      Replaced value other (.entry :: steps) (.ofEntries (before ++ (name, old) :: after))
        (.ofEntries (before ++ (name, new) :: after))

/-- What is read from a document stays the same, as it is viewed, if the value that the steps lead
    to is replaced. -/
def KeepsView (value other : Written) (steps : List Step) (decode : Written → Option α)
    (view : α → β) : Prop :=
  ∀ document replaced, Replaced value other steps document replaced →
    (decode replaced).map view = (decode document).map view

variable {value other document replaced : Written} {names : List String} {name : String}
  {steps : List Step} {decode : Written → Option α} {view : α → β}

/-- The steps lead to the value, whatever it is replaced by. -/
def LeadsTo (steps : List Step) (document value : Written) : Prop :=
  ∀ other, ∃ replaced, Replaced value other steps document replaced

theorem LeadsTo.here (value : Written) : LeadsTo [] value value := fun other => ⟨other, .here⟩

theorem LeadsTo.field {old : Written} (h : LeadsTo steps old value)
    (hfield : document.HasField names name old) :
    LeadsTo (.field names name :: steps) document value := by
  intro other
  obtain ⟨new, hreplaced⟩ := h other
  cases hfield with
  | named hmem =>
    obtain ⟨before, after, rfl⟩ := List.append_of_mem hmem
    exact ⟨_, .named hreplaced⟩
  | placed hname hplace =>
    obtain ⟨before, after, rfl, rfl⟩ := exists_append_of_getElem? hplace
    exact ⟨_, .placed hname hreplaced⟩

theorem LeadsTo.item {items : List Written} {place : ℕ} {old : Written}
    (h : LeadsTo steps old value) (hplace : items[place]? = some old) :
    LeadsTo (.item place :: steps) (.list items) value := by
  intro other
  obtain ⟨new, hreplaced⟩ := h other
  obtain ⟨before, after, rfl, hlength⟩ := exists_append_of_getElem? hplace
  exact ⟨_, .item hlength hreplaced⟩

theorem LeadsTo.entry {entries : List (String × Written)} {old : Written}
    (h : LeadsTo steps old value) (hmem : (name, old) ∈ entries) :
    LeadsTo (.entry :: steps) (.ofEntries entries) value := by
  intro other
  obtain ⟨new, hreplaced⟩ := h other
  obtain ⟨before, after, rfl⟩ := List.append_of_mem hmem
  exact ⟨_, .entry hreplaced⟩

/-! ### Fields -/

/-- The fields of a record are the same but for what the steps lead to from one of them. -/
def FieldReplaced (value other : Written) (name : String) (steps : List Step)
    (fields replaced : List (String × Written)) : Prop :=
  ∃ old new, Replaced value other steps old new ∧ fields.lookup name = some old ∧
    replaced.lookup name = some new ∧
    ∀ sought, sought ≠ name → replaced.lookup sought = fields.lookup sought

/-- The fields of a record stay, but for the one through which the steps lead. -/
theorem Replaced.fields? (hnames : names.Nodup) (hname : name ∈ names)
    (h : Replaced value other (.field names name :: steps) document replaced) :
    Option.Rel (FieldReplaced value other name steps) (document.fields? names)
      (replaced.fields? names) := by
  cases h with
  | @named _ _ _ before after old new h =>
    have hcontains : names.contains name = true := by simpa using hname
    have hfilter (value : Written) :
        (before ++ (name, value) :: after).filter (names.contains ·.1) =
          before.filter (names.contains ·.1) ++ (name, value) ::
            after.filter (names.contains ·.1) := by
      rw [List.filter_append, List.filter_cons, if_pos hcontains]
    simp only [Written.fields?_ofEntries, hfilter, List.map_append, List.map_cons]
    split_ifs with hnodup
    · have hbefore : name ∉ (before.filter (names.contains ·.1)).map (·.1) := fun hmem =>
        (List.nodup_append.1 hnodup).2.2 name hmem name List.mem_cons_self rfl
      refine .some ⟨old, new, h, ?_, ?_, fun sought hsought => ?_⟩
      · rw [lookup_append_cons hbefore, if_pos rfl]
      · rw [lookup_append_cons hbefore, if_pos rfl]
      · rw [lookup_append_cons hbefore, lookup_append_cons hbefore, if_neg hsought, if_neg hsought]
    · exact .none
  | @placed _ _ _ before after old new hplaced h =>
    obtain ⟨earlier, later, rfl, hlength⟩ := exists_append_of_getElem? hplaced
    have hbefore : name ∉ (earlier.zip before).map (·.1) := by
      intro hmem
      obtain ⟨entry, hentry, rfl⟩ := List.mem_map.1 hmem
      exact (List.nodup_append.1 hnames).2.2 _ (List.of_mem_zip hentry).1 _ List.mem_cons_self rfl
    simp only [Written.fields?, List.length_append, List.length_cons, List.zip_append hlength,
      List.zip_cons_cons]
    split_ifs
    · refine .some ⟨old, new, h, ?_, ?_, fun sought hsought => ?_⟩
      · rw [lookup_append_cons hbefore, if_pos rfl]
      · rw [lookup_append_cons hbefore, if_pos rfl]
      · rw [lookup_append_cons hbefore, lookup_append_cons hbefore, if_neg hsought, if_neg hsought]
    · exact .none

namespace FieldReplaced

variable {sought : String} {fields others : List (String × Written)}

theorem map_field? (h : FieldReplaced value other name steps fields others)
    (hdecode : KeepsView value other steps decode view) :
    (field? others name decode).map view = (field? fields name decode).map view := by
  obtain ⟨old, new, hreplaced, hold, hnew, -⟩ := h
  simp only [field?, hold, hnew, Option.bind_some]
  exact hdecode old new hreplaced

theorem map_fieldOr? (h : FieldReplaced value other name steps fields others)
    (hdecode : KeepsView value other steps decode view) (absent : α) :
    (fieldOr? others name absent decode).map view =
      (fieldOr? fields name absent decode).map view := by
  obtain ⟨old, new, hreplaced, hold, hnew, -⟩ := h
  simp only [fieldOr?, hold, hnew]
  exact hdecode old new hreplaced

/-- Every other field stays as it is. -/
theorem field?_eq (h : FieldReplaced value other name steps fields others) (hsought : sought ≠ name)
    (decode : Written → Option α) : field? others sought decode = field? fields sought decode := by
  obtain ⟨_, _, -, -, -, hsame⟩ := h
  rw [field?, field?, hsame sought hsought]

theorem fieldOr?_eq (h : FieldReplaced value other name steps fields others)
    (hsought : sought ≠ name) (absent : α) (decode : Written → Option α) :
    fieldOr? others sought absent decode = fieldOr? fields sought absent decode := by
  obtain ⟨_, _, -, -, -, hsame⟩ := h
  rw [fieldOr?, fieldOr?, hsame sought hsought]

end FieldReplaced

/-! ### Decoders -/

namespace KeepsView

/-- What is read from the fields of a record is read from the record. -/
theorem record {read : List (String × Written) → Option α} (hnames : names.Nodup)
    (hname : name ∈ names)
    (hread : ∀ fields others, FieldReplaced value other name steps fields others →
      (read others).map view = (read fields).map view) :
    KeepsView value other (.field names name :: steps)
      (fun document => document.fields? names >>= read) view := by
  intro document replaced hreplaced
  have hfields := hreplaced.fields? hnames hname
  dsimp only
  generalize document.fields? names = old, replaced.fields? names = new at hfields ⊢
  cases hfields with
  | none => rfl
  | some hfields => exact hread _ _ hfields

theorem listOf? (h : KeepsView value other steps decode view) (place : ℕ) :
    KeepsView value other (.item place :: steps) (Written.listOf? decode) (List.map view) := by
  rintro _ _ (_ | _ | _ | ⟨-, hreplaced⟩)
  exact map_mapM_append_cons (h _ _ hreplaced) _ _

/-- A document into which a step leads is not null. -/
theorem optional? {step : Step} (h : KeepsView value other (step :: steps) decode view) :
    KeepsView value other (step :: steps) (Written.optional? decode) (Option.map view) := by
  intro document replaced hreplaced
  have hsome : Written.optional? decode document = (decode document).map some ∧
      Written.optional? decode replaced = (decode replaced).map some := by
    cases hreplaced <;> exact ⟨rfl, rfl⟩
  have hview := congrArg (Option.map some) (h document replaced hreplaced)
  rw [Option.map_map, Option.map_map] at hview
  rw [hsome.1, hsome.2, Option.map_map, Option.map_map]
  exact hview

end KeepsView

end FeeOracle.Json
