import Calculator.Toml.Document

/-!
# Distinct keys

A table of a document has each of its keys once, and so have the tables in it at any depth. An entry
is added only under a key that is not there, and a value that is replaced keeps its key. So what is
read keeps this property, from one entry (`Table.hasDistinctKeys_change`) to all lines
(`yields_readLines`), and a document can be taken as a finite map (`hasDistinctKeys_of_parse`).
-/

set_option autoImplicit false

namespace Calculator.Toml

/-! ## What readers read -/

namespace Reader

variable {α β : Type}

/-- All that a reader reads has a property. -/
def Yields (r : Reader α) (p : α → Prop) : Prop :=
  ∀ text a rest, r text = .ok (a, rest) → p a

variable {r s : Reader α} {f : α → Reader β} {p : α → Prop} {q : β → Prop}

theorem yields_fail : (fail : Reader α).Yields p := by
  intro text a rest h
  cases h

theorem yields_pure {a : α} (h : p a) : (pure a : Reader α).Yields p := by
  intro text b rest hread
  cases hread
  exact h

theorem Yields.bind (hr : r.Yields p) (hf : ∀ a, p a → (f a).Yields q) : (r >>= f).Yields q := by
  intro text b rest h
  change (r text >>= fun found => f found.1 found.2) = .ok (b, rest) at h
  cases hread : r text with
  | error e =>
      rw [hread] at h
      cases h
  | ok found =>
      rw [hread] at h
      exact hf found.1 (hr text found.1 found.2 hread) found.2 b rest h

/-- What is read first does not matter if all that follows has the property. -/
theorem yields_bind (hf : ∀ a, (f a).Yields q) : (r >>= f).Yields q := by
  have hany : r.Yields fun _ => True := fun _ _ _ _ => trivial
  exact hany.bind fun a _ => hf a

theorem Yields.orElse (hr : r.Yields p) (hs : s.Yields p) : (orElse r s).Yields p := by
  intro text a rest h
  unfold Reader.orElse at h
  split at h
  · exact hs text a rest h
  · exact hr text a rest h

theorem yields_firstOf {readers : List (Reader α)} (h : ∀ r ∈ readers, r.Yields p) :
    (firstOf readers).Yields p := by
  induction readers with
  | nil => exact yields_fail
  | cons r rest ih =>
      obtain ⟨hr, hrest⟩ := List.forall_mem_cons.mp h
      exact hr.orElse (ih hrest)

end Reader

/-! ## Values and tables -/

/-- A value in which every table has each of its keys once. -/
inductive Value.HasDistinctKeys : Value → Prop
  | scalar {v : Value} : v.isContainer = false → HasDistinctKeys v
  | array {items : List Value} :
      (∀ item ∈ items, HasDistinctKeys item) → HasDistinctKeys (.array items)
  | table {entries : Table} :
      (entries.map Prod.fst).Nodup → (∀ entry ∈ entries, HasDistinctKeys entry.2) →
      HasDistinctKeys (.table entries)

namespace Table

/-- A table that has each of its keys once, and so have the tables in it. -/
structure HasDistinctKeys (t : Table) : Prop where
  nodup : (t.map Prod.fst).Nodup
  values : ∀ entry ∈ t, entry.2.HasDistinctKeys

variable {t t' : Table} {key : String} {v : Value}

theorem hasDistinctKeys_iff : (Value.table t).HasDistinctKeys ↔ t.HasDistinctKeys := by
  constructor
  · intro h
    cases h with
    | scalar h => cases h
    | table hnodup hvalues => exact ⟨hnodup, hvalues⟩
  · rintro ⟨hnodup, hvalues⟩
    exact .table hnodup hvalues

theorem hasDistinctKeys_array_iff {items : List Value} :
    (Value.array items).HasDistinctKeys ↔ ∀ item ∈ items, item.HasDistinctKeys := by
  constructor
  · intro h
    cases h with
    | scalar h => cases h
    | array hitems => exact hitems
  · exact .array

theorem hasDistinctKeys_nil : HasDistinctKeys [] :=
  ⟨List.nodup_nil, List.forall_mem_nil _⟩

theorem HasDistinctKeys.lookup (h : t.HasDistinctKeys) (hkey : t.lookup key = some v) :
    v.HasDistinctKeys := by
  obtain ⟨before, after, rfl, -⟩ := List.lookup_eq_some_iff.mp hkey
  exact h.values (key, v) (by simp)

/-- An entry is added at the end, under a key that is not there. -/
theorem HasDistinctKeys.concat (h : t.HasDistinctKeys) (hkey : t.lookup key = none)
    (hv : v.HasDistinctKeys) : HasDistinctKeys (t ++ [(key, v)]) where
  nodup := by
    have hnew : key ∉ t.map Prod.fst := by
      intro hmem
      obtain ⟨entry, hentry, rfl⟩ := List.mem_map.mp hmem
      have hne := List.lookup_eq_none_iff.mp hkey entry hentry
      exact bne_iff_ne.mp hne rfl
    rw [List.map_append, List.nodup_append]
    refine ⟨h.nodup, List.pairwise_singleton _ _, ?_⟩
    intro other hother last hlast heq
    obtain rfl := List.mem_singleton.mp hlast
    exact hnew (heq ▸ hother)
  values := by
    intro entry hentry
    rcases List.mem_append.mp hentry with hold | hnew
    · exact h.values entry hold
    · obtain rfl := List.mem_singleton.mp hnew
      exact hv

theorem HasDistinctKeys.replace (h : t.HasDistinctKeys) (hv : v.HasDistinctKeys) :
    (t.replace key v).HasDistinctKeys where
  nodup := by
    have hkeys : (t.replace key v).map Prod.fst = t.map Prod.fst := by
      rw [Table.replace, List.map_map]
      refine List.map_congr_left fun entry _ => ?_
      by_cases hentry : entry.1 = key <;> simp [hentry]
    rw [hkeys]
    exact h.nodup
  values := by
    intro entry hentry
    obtain ⟨old, hold, rfl⟩ := List.mem_map.mp hentry
    by_cases hkey : old.1 = key
    · rw [if_pos hkey]
      exact hv
    · rw [if_neg hkey]
      exact h.values old hold

/-- An array whose items are tables may get one more, or a new one in place of its last. -/
theorem HasDistinctKeys.replaceItems (h : t.HasDistinctKeys) {items : List Value}
    (hitems : ∀ item ∈ items, item.HasDistinctKeys) (hv : v.HasDistinctKeys) :
    (t.replace key (.array (items ++ [v]))).HasDistinctKeys := by
  refine h.replace (hasDistinctKeys_array_iff.mpr fun item hitem => ?_)
  rcases List.mem_append.mp hitem with hold | hnew
  · exact hitems item hold
  · obtain rfl := List.mem_singleton.mp hnew
    exact hv

theorem hasDistinctKeys_insertNew (h : t.HasDistinctKeys) (hv : v.HasDistinctKeys)
    (hinsert : t.insertNew key v = some t') : t'.HasDistinctKeys := by
  unfold insertNew at hinsert
  split at hinsert
  · cases hinsert
  · next habsent =>
      cases hinsert
      exact h.concat (Option.not_isSome_iff_eq_none.mp habsent) hv

theorem hasDistinctKeys_appendTable (h : t.HasDistinctKeys)
    (happend : t.appendTable key = some t') : t'.HasDistinctKeys := by
  have hempty : (Value.table []).HasDistinctKeys := hasDistinctKeys_iff.mpr hasDistinctKeys_nil
  unfold appendTable at happend
  split at happend
  · next habsent =>
      cases happend
      exact h.concat habsent (hasDistinctKeys_array_iff.mpr (by simpa using hempty))
  · next items hitems =>
      cases happend
      have hold := hasDistinctKeys_array_iff.mp (h.lookup hitems)
      exact h.replaceItems hold hempty
  · cases happend

/-- What keeps the keys of a table distinct does so at the end of any path. -/
theorem hasDistinctKeys_change {throughArrays : Bool} {f : Table → Option Table}
    (hf : ∀ {t t' : Table}, t.HasDistinctKeys → f t = some t' → t'.HasDistinctKeys)
    {path : Path} (h : t.HasDistinctKeys) (hchange : change throughArrays f path t = some t') :
    t'.HasDistinctKeys := by
  induction path generalizing t t' with
  | nil => exact hf h hchange
  | cons key path ih =>
      unfold change at hchange
      -- The path goes on in a table that is new, in one that is there, or in the last of an array.
      split at hchange
      · next habsent =>
          obtain ⟨inner, hinner, rfl⟩ := Option.map_eq_some_iff.mp hchange
          exact h.concat habsent (hasDistinctKeys_iff.mpr (ih hasDistinctKeys_nil hinner))
      · next old hold =>
          obtain ⟨inner, hinner, rfl⟩ := Option.map_eq_some_iff.mp hchange
          have hnew := ih (hasDistinctKeys_iff.mp (h.lookup hold)) hinner
          exact h.replace (hasDistinctKeys_iff.mpr hnew)
      · next items hitems =>
          split at hchange
          · next old hlast =>
              obtain ⟨inner, hinner, rfl⟩ := Option.map_eq_some_iff.mp hchange
              have hold := hasDistinctKeys_array_iff.mp (h.lookup hitems)
              have hnew := ih (hasDistinctKeys_iff.mp (hold _ (List.mem_of_getLast? hlast))) hinner
              have hothers : ∀ item ∈ items.dropLast, item.HasDistinctKeys :=
                fun item hitem => hold item (List.dropLast_subset _ hitem)
              exact h.replaceItems hothers (hasDistinctKeys_iff.mpr hnew)
          · cases hchange
      · cases hchange

end Table

/-! ## Values that are read -/

theorem yields_readBased (letter : Char) (base : Nat) (p : Char → Bool) :
    (readBased letter base p).Yields (·.isContainer = false) :=
  Reader.yields_bind fun _ => Reader.yields_bind fun _ => Reader.yields_pure rfl

theorem yields_readInteger (negative : Bool) (digits : List Char) :
    (readInteger negative digits).Yields (·.isContainer = false) := by
  intro text v rest h
  unfold readInteger at h
  split at h
  · cases h
  · cases h
    rfl

theorem yields_readDecimal : readDecimal.Yields (·.isContainer = false) := by
  unfold readDecimal
  refine Reader.yields_bind fun negative => Reader.yields_bind fun whole => ?_
  refine Reader.yields_bind fun fraction => Reader.yields_bind fun exponent => ?_
  split
  · exact yields_readInteger negative whole
  · exact Reader.yields_pure rfl

theorem yields_readSpecial : readSpecial.Yields (·.isContainer = false) := by
  unfold readSpecial
  refine Reader.yields_bind fun negative => Reader.yields_bind fun isInfinite => ?_
  split
  · exact Reader.yields_bind fun _ => Reader.yields_pure rfl
  · exact Reader.yields_bind fun _ => Reader.yields_pure rfl

theorem yields_readDateTime : readDateTime.Yields (·.isContainer = false) := by
  unfold readDateTime
  refine Reader.yields_bind fun date => Reader.yields_bind fun time => ?_
  split
  · exact Reader.yields_pure rfl
  · exact Reader.yields_pure rfl

theorem yields_readTime : (Value.time <$> readTime).Yields (·.isContainer = false) := by
  rw [map_eq_pure_bind]
  exact Reader.yields_bind fun _ => Reader.yields_pure rfl

theorem yields_readBoolean : readBoolean.Yields (·.isContainer = false) := by
  intro text v rest h
  unfold readBoolean Reader.ofOption at h
  split at h
  · next result hresult =>
      cases h
      dsimp only at hresult
      split at hresult
      · cases hresult
        rfl
      · split at hresult
        · cases hresult
          rfl
        · cases hresult
  · cases h

/-- What is read as a scalar is one. -/
theorem yields_readScalar : readScalar.Yields (·.isContainer = false) := by
  refine Reader.yields_firstOf ?_
  simp only [List.forall_mem_cons]
  exact ⟨yields_readBoolean, yields_readDateTime, yields_readTime, yields_readBased _ _ _,
    yields_readBased _ _ _, yields_readBased _ _ _, yields_readDecimal, yields_readSpecial,
    List.forall_mem_nil _⟩

theorem InlineTable.hasDistinctKeys_add {t t' : InlineTable} {key : Path} {v : Value}
    (h : t.entries.HasDistinctKeys) (hv : v.HasDistinctKeys) (hadd : t.add key v = some t') :
    t'.entries.HasDistinctKeys := by
  unfold InlineTable.add at hadd
  split at hadd
  · cases hadd
  · obtain ⟨entries, hentries, rfl⟩ := Option.map_eq_some_iff.mp hadd
    exact Table.hasDistinctKeys_change (fun h => Table.hasDistinctKeys_insertNew h hv) h hentries

/-- With this fuel, the three readers that call each other read values with distinct keys. -/
structure ReadsDistinctKeys (fuel : Nat) : Prop where
  value : (readValue fuel).Yields Value.HasDistinctKeys
  items : (readItems fuel).Yields (∀ item ∈ ·, Value.HasDistinctKeys item)
  entries : ∀ t : InlineTable, t.entries.HasDistinctKeys →
    (readEntries fuel t).Yields Table.HasDistinctKeys

namespace ReadsDistinctKeys

variable {fuel : Nat}

theorem readValue_succ (h : ReadsDistinctKeys fuel) :
    (readValue (fuel + 1)).Yields Value.HasDistinctKeys := by
  unfold readValue
  refine Reader.yields_bind fun next => ?_
  split
  · exact Reader.yields_bind fun _ => Reader.yields_pure (.scalar rfl)
  · exact Reader.yields_bind fun _ => Reader.yields_pure (.scalar rfl)
  · exact Reader.yields_bind fun _ => h.items.bind fun _ hitems =>
      Reader.yields_pure (.array hitems)
  · -- An inline table begins without entries.
    have hempty := Table.hasDistinctKeys_nil
    refine Reader.yields_bind fun _ => Reader.yields_bind fun _ =>
      Reader.yields_bind fun isEmpty => ?_
    split
    · exact Reader.yields_pure (Table.hasDistinctKeys_iff.mpr hempty)
    · exact (h.entries ⟨[], []⟩ hempty).bind fun _ hentries =>
        Reader.yields_pure (Table.hasDistinctKeys_iff.mpr hentries)
  · exact fun text v rest hread => .scalar (yields_readScalar text v rest hread)

theorem readItems_succ (h : ReadsDistinctKeys fuel) :
    (readItems (fuel + 1)).Yields (∀ item ∈ ·, Value.HasDistinctKeys item) := by
  unfold readItems
  refine Reader.yields_bind fun _ => Reader.yields_bind fun isEnd => ?_
  split
  · exact Reader.yields_pure (List.forall_mem_nil _)
  · refine h.value.bind fun item hitem => Reader.yields_bind fun _ =>
      Reader.yields_bind fun goesOn => ?_
    split
    · exact h.items.bind fun items hitems =>
        Reader.yields_pure (List.forall_mem_cons.mpr ⟨hitem, hitems⟩)
    · exact Reader.yields_bind fun _ => Reader.yields_pure (by simpa using hitem)

theorem readEntries_succ (h : ReadsDistinctKeys fuel) (t : InlineTable)
    (ht : t.entries.HasDistinctKeys) :
    (readEntries (fuel + 1) t).Yields Table.HasDistinctKeys := by
  unfold readEntries
  refine Reader.yields_bind fun key => Reader.yields_bind fun _ =>
    Reader.yields_bind fun _ => h.value.bind fun v hv => ?_
  split
  · exact Reader.yields_fail
  · next larger hadd =>
      have hlarger := InlineTable.hasDistinctKeys_add ht hv hadd
      refine Reader.yields_bind fun _ => Reader.yields_bind fun goesOn => ?_
      split
      · exact Reader.yields_bind fun _ => h.entries larger hlarger
      · exact Reader.yields_bind fun _ => Reader.yields_pure hlarger

end ReadsDistinctKeys

/-- Values are read with distinct keys, whatever the fuel. -/
theorem readsDistinctKeys (fuel : Nat) : ReadsDistinctKeys fuel := by
  induction fuel with
  | zero => exact ⟨Reader.yields_fail, Reader.yields_fail, fun _ _ => Reader.yields_fail⟩
  | succ fuel ih => exact ⟨ih.readValue_succ, ih.readItems_succ, ih.readEntries_succ⟩

/-! ## Lines -/

/-- The tables of a document being read have distinct keys. -/
def Draft.HasDistinctKeys (d : Draft) : Prop := d.root.HasDistinctKeys

namespace Draft

variable {d d' : Draft} {key : Path} {v : Value}

theorem hasDistinctKeys_addEntry (h : d.HasDistinctKeys) (hv : v.HasDistinctKeys)
    (hadd : d.addEntry key v = some d') : d'.HasDistinctKeys := by
  unfold addEntry at hadd
  dsimp only at hadd
  split at hadd
  · cases hadd
  · obtain ⟨root, hroot, rfl⟩ := Option.map_eq_some_iff.mp hadd
    exact Table.hasDistinctKeys_change (fun h => Table.hasDistinctKeys_insertNew h hv) h hroot

theorem hasDistinctKeys_openTable (h : d.HasDistinctKeys) (hopen : d.openTable key = some d') :
    d'.HasDistinctKeys := by
  unfold openTable at hopen
  dsimp only at hopen
  split at hopen
  · cases hopen
  · obtain ⟨root, hroot, rfl⟩ := Option.map_eq_some_iff.mp hopen
    refine Table.hasDistinctKeys_change (fun h hsame => ?_) h hroot
    cases hsame
    exact h

theorem hasDistinctKeys_openElement (h : d.HasDistinctKeys)
    (hopen : d.openElement key = some d') : d'.HasDistinctKeys := by
  unfold openElement at hopen
  dsimp only at hopen
  split at hopen
  · cases hopen
  · obtain ⟨root, hroot, rfl⟩ := Option.map_eq_some_iff.mp hopen
    exact Table.hasDistinctKeys_change Table.hasDistinctKeys_appendTable h hroot

end Draft

/-- One line keeps the keys distinct. -/
theorem yields_readLine {d : Draft} (h : d.HasDistinctKeys) :
    (readLine d).Yields Draft.HasDistinctKeys := by
  unfold readLine
  refine Reader.yields_bind fun next => ?_
  split
  · unfold readHeading
    refine Reader.yields_bind fun _ => Reader.yields_bind fun isElement =>
      Reader.yields_bind fun _ => Reader.yields_bind fun key => Reader.yields_bind fun _ => ?_
    split
    · next d' hopen =>
        refine Reader.yields_pure ?_
        split at hopen
        · exact Draft.hasDistinctKeys_openElement h hopen
        · exact Draft.hasDistinctKeys_openTable h hopen
    · exact Reader.yields_fail
  · split
    · unfold readEntryLine
      refine Reader.yields_bind fun key => Reader.yields_bind fun _ =>
        Reader.yields_bind fun _ => ?_
      have hvalue : Reader.Yields (fun text => readValue (2 * text.length + 2) text)
          Value.HasDistinctKeys := fun text => (readsDistinctKeys _).value text
      refine hvalue.bind fun v hv => ?_
      split
      · next hadd => exact Reader.yields_pure (Draft.hasDistinctKeys_addEntry h hv hadd)
      · exact Reader.yields_fail
    · exact Reader.yields_pure h
  · exact Reader.yields_pure h

/-- So do all lines. -/
theorem yields_readLines {fuel : Nat} {d : Draft} (h : d.HasDistinctKeys) :
    (readLines fuel d).Yields Draft.HasDistinctKeys := by
  induction fuel generalizing d with
  | zero => exact Reader.yields_fail
  | succ fuel ih =>
      unfold readLines
      refine Reader.yields_bind fun _ => (yields_readLine h).bind fun d' hd' =>
        Reader.yields_bind fun _ => Reader.yields_bind fun _ => Reader.yields_bind fun next => ?_
      split
      · exact Reader.yields_pure hd'
      · exact Reader.yields_bind fun _ => ih hd'

/-- A document has each key once, and so have all tables in it. -/
theorem hasDistinctKeys_of_parse {text : List Char} {document : Table}
    (h : parse text = .ok document) : document.HasDistinctKeys := by
  unfold parse at h
  cases hlines : readLines (text.length + 1) .empty text with
  | error e =>
      rw [hlines] at h
      cases h
  | ok found =>
      rw [hlines] at h
      cases h
      have hempty : Draft.empty.HasDistinctKeys := Table.hasDistinctKeys_nil
      exact yields_readLines hempty text found.1 found.2 hlines

end Calculator.Toml
