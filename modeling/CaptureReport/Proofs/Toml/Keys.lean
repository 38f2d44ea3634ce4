import CaptureReport.Toml.Document
import Mathlib.Data.List.Nodup

/-!
# A key occurs once

The tables of a document are built up by statements, and a key is added to a table only if it is not
there yet. So no table of a document, however deep it lies, has a key twice, and what is looked up
under a key is all that there is under it.

The proof follows the construction. Entries are looked at through the table that they come to, so
that one predicate does for values and for tables under construction; each way of adding to them
keeps it, and so does each reader of a value.

## Main results

* `Entries.keeps_within`, `Entries.keeps_assign`: what statements add keeps keys apart.
* `distinct_of_valueWithin?`: the tables that are written as values.
* `distinct_of_parseBytes?`: all tables of a document.
-/

namespace CaptureReport.Toml

/-- Whether a value is one that holds no other values. -/
def Value.isFlat : Value → Bool
  | .array _ | .table _ => false
  | .string _ | .integer _ | .float _ | .boolean _ | .unreadable | .moment _ => true

/-- A value in which no table, however deep it lies, has a key twice. -/
inductive Value.Distinct : Value → Prop
  | flat {value : Value} (hflat : value.isFlat = true) : value.Distinct
  | array {items : List Value} (hitems : ∀ item ∈ items, item.Distinct) :
    (Value.array items).Distinct
  | table {entries : Table} (hkeys : (entries.map Prod.fst).Nodup)
      (hvalues : ∀ entry ∈ entries, entry.2.Distinct) : (Value.table entries).Distinct

theorem Value.distinct_table_iff {entries : Table} :
    (Value.table entries).Distinct ↔
      (entries.map Prod.fst).Nodup ∧ ∀ entry ∈ entries, entry.2.Distinct := by
  constructor
  · intro h
    cases h with
    | flat hflat => cases hflat
    | table hkeys hvalues => exact ⟨hkeys, hvalues⟩
  · rintro ⟨hkeys, hvalues⟩
    exact .table hkeys hvalues

theorem Value.distinct_array_iff {items : List Value} :
    (Value.array items).Distinct ↔ ∀ item ∈ items, item.Distinct := by
  constructor
  · intro h
    cases h with
    | flat hflat => cases hflat
    | array hitems => exact hitems
  · exact .array

/-! ### Looking up -/

section Lookup

variable {β : Type} {entries : List (String × β)} {key : String} {b : β}

theorem mem_of_lookup (h : entries.lookup key = some b) : (key, b) ∈ entries := by
  obtain ⟨front, back, rfl, -⟩ := List.lookup_eq_some_iff.mp h
  exact List.mem_append_right front List.mem_cons_self

theorem lookup_eq_none_iff : entries.lookup key = none ↔ key ∉ entries.map Prod.fst := by
  rw [List.lookup_eq_none_iff, List.mem_map]
  constructor
  · rintro h ⟨entry, hentry, rfl⟩
    simpa using h entry hentry
  · intro h entry hentry
    exact bne_iff_ne.mpr fun heq => h ⟨entry, hentry, heq.symm⟩

/-- Where no key occurs twice, every entry is found under its key. -/
theorem lookup_of_mem (hkeys : (entries.map Prod.fst).Nodup) (h : (key, b) ∈ entries) :
    entries.lookup key = some b := by
  obtain ⟨front, back, rfl⟩ := List.append_of_mem h
  rw [List.map_append, List.nodup_append] at hkeys
  refine List.lookup_eq_some_iff.mpr ⟨front, back, rfl, fun entry hentry => ?_⟩
  have hne := hkeys.2.2 entry.1 (List.mem_map_of_mem hentry) key List.mem_cons_self
  simpa using hne.symm

end Lookup

/-! ### Tables under construction -/

theorem tableOf_eq_map (entries : Entries) :
    tableOf entries = entries.map fun entry => (entry.1, entry.2.value) := by
  induction entries with
  | nil => rfl
  | cons entry entries ih => rw [tableOf, ih, List.map_cons]

theorem tablesOf_eq_append (earlier : List Entries) (later : List Value) :
    tablesOf earlier later =
      (earlier.map fun entries => .table (tableOf entries)).reverse ++ later := by
  induction earlier generalizing later with
  | nil => rfl
  | cons entries earlier ih =>
    rw [tablesOf, ih, List.map_cons, List.reverse_cons, List.append_assoc, List.singleton_append]

namespace Entries

/-- Entries that come to a table without a key that occurs twice. -/
def Distinct (entries : Entries) : Prop :=
  (Value.table (tableOf entries)).Distinct

/-- A change that keeps keys apart where it can be made. -/
def Keeps (change : Entries → Option Entries) : Prop :=
  ∀ entries, entries.Distinct → ∀ result ∈ change entries, result.Distinct

variable {entries : Entries} {key : String} {node : Node} {value : Value}

theorem distinct_iff :
    entries.Distinct ↔
      (entries.map Prod.fst).Nodup ∧ ∀ entry ∈ entries, entry.2.value.Distinct := by
  have hkeys : (tableOf entries).map Prod.fst = entries.map Prod.fst := by
    rw [tableOf_eq_map, List.map_map]
    rfl
  rw [Distinct, Value.distinct_table_iff, hkeys, tableOf_eq_map, List.forall_mem_map]

theorem distinct_nil : Distinct [] :=
  distinct_iff.mpr ⟨List.nodup_nil, nofun⟩

theorem distinct_tables {latest : Entries} {earlier : List Entries} :
    (Node.tables latest earlier).value.Distinct ↔
      latest.Distinct ∧ ∀ entries ∈ earlier, entries.Distinct := by
  rw [Node.value, tablesOf_eq_append, Value.distinct_array_iff, List.forall_mem_append,
    List.forall_mem_singleton, and_comm]
  simp only [List.mem_reverse, List.forall_mem_map]
  rfl

theorem Distinct.lookup (h : entries.Distinct) (hlookup : entries.lookup key = some node) :
    node.value.Distinct :=
  (distinct_iff.mp h).2 _ (mem_of_lookup hlookup)

/-- A key that is new. -/
theorem Distinct.insert (h : entries.Distinct) (hnew : entries.lookup key = none)
    (hnode : node.value.Distinct) : (entries.insert key node).Distinct := by
  obtain ⟨hkeys, hvalues⟩ := distinct_iff.mp h
  refine distinct_iff.mpr ⟨?_, fun entry hentry => ?_⟩
  · rw [Entries.insert, List.map_append, List.map_singleton, ← List.concat_eq_append]
    exact List.Nodup.concat (lookup_eq_none_iff.mp hnew) hkeys
  · rcases List.mem_append.mp hentry with hold | hadded
    · exact hvalues entry hold
    · rw [List.mem_singleton.mp hadded]
      exact hnode

/-- Another node in the place of one. -/
theorem Distinct.replace (h : entries.Distinct) (hnode : node.value.Distinct) :
    (entries.replace key node).Distinct := by
  obtain ⟨hkeys, hvalues⟩ := distinct_iff.mp h
  refine distinct_iff.mpr ⟨?_, fun entry hentry => ?_⟩
  · have hsame : (entries.replace key node).map Prod.fst = entries.map Prod.fst := by
      rw [Entries.replace, List.map_map]
      refine List.map_congr_left fun entry _ => ?_
      by_cases heq : entry.1 = key <;> simp [heq]
    rw [hsame]
    exact hkeys
  · obtain ⟨old, hold, rfl⟩ := List.mem_map.mp hentry
    by_cases heq : old.1 = key
    · rw [if_pos heq]
      exact hnode
    · rw [if_neg heq]
      exact hvalues old hold

/-- **A change further down**: what it keeps, it keeps at the end of a path of headers. -/
theorem keeps_within {change : Entries → Option Entries} (hchange : Keeps change)
    (path : List String) : Keeps (within change path) := by
  induction path with
  | nil => exact hchange
  | cons key path ih =>
    intro entries h result hresult
    rw [within] at hresult
    split at hresult
    · rename_i hlookup
      obtain ⟨inner, hinner, rfl⟩ := Option.map_eq_some_iff.mp hresult
      exact h.insert hlookup (ih [] distinct_nil inner hinner)
    · rename_i hlookup
      obtain ⟨inner, hinner, rfl⟩ := Option.map_eq_some_iff.mp hresult
      exact h.replace (ih _ (h.lookup hlookup) inner hinner)
    · rename_i hlookup
      obtain ⟨latest, hlatest, rfl⟩ := Option.map_eq_some_iff.mp hresult
      obtain ⟨hbefore, hearlier⟩ := distinct_tables.mp (h.lookup hlookup)
      exact h.replace (distinct_tables.mpr ⟨ih _ hbefore latest hlatest, hearlier⟩)
    · cases hresult

theorem keeps_introduce (key : String) : Keeps (introduce key) := by
  intro entries h result hresult
  rw [introduce] at hresult
  split at hresult
  · rename_i hlookup
    obtain rfl := Option.some.inj hresult
    exact h.insert hlookup distinct_nil
  · rename_i inner hlookup
    obtain rfl := Option.some.inj hresult
    have hinner : (Node.table .implied inner).value.Distinct := h.lookup hlookup
    exact h.replace hinner
  · cases hresult

theorem keeps_introduceItem (key : String) : Keeps (introduceItem key) := by
  intro entries h result hresult
  rw [introduceItem] at hresult
  split at hresult
  · rename_i hlookup
    obtain rfl := Option.some.inj hresult
    exact h.insert hlookup (distinct_tables.mpr ⟨distinct_nil, nofun⟩)
  · rename_i latest earlier hlookup
    obtain rfl := Option.some.inj hresult
    obtain ⟨hlatest, hearlier⟩ := distinct_tables.mp (h.lookup hlookup)
    refine h.replace (distinct_tables.mpr ⟨distinct_nil, fun entries hentries => ?_⟩)
    rcases List.mem_cons.mp hentries with rfl | hrest
    · exact hlatest
    · exact hearlier entries hrest
  · cases hresult

/-- **A value for a dotted key.** -/
theorem keeps_assign (hvalue : value.Distinct) (here : Bool) (path : List String) :
    Keeps (assign value here path) := by
  induction path generalizing here with
  | nil =>
    intro entries _ result hresult
    cases hresult
  | cons key path ih =>
    intro entries h result hresult
    cases path with
    | nil =>
      rw [assign] at hresult
      split at hresult
      · rename_i hfree
        obtain rfl := Option.some.inj hresult
        rw [Bool.and_eq_true, Option.isNone_iff_eq_none] at hfree
        exact h.insert hfree.2 hvalue
      · cases hresult
    | cons next path =>
      rw [assign] at hresult
      · split at hresult
        · rename_i hlookup
          obtain ⟨inner, hinner, rfl⟩ := Option.map_eq_some_iff.mp hresult
          exact h.insert hlookup (ih true [] distinct_nil inner hinner)
        · rename_i hlookup
          obtain ⟨inner, hinner, rfl⟩ := Option.map_eq_some_iff.mp hresult
          exact h.replace (ih true _ (h.lookup hlookup) inner hinner)
        · rename_i hlookup
          obtain ⟨inner, hinner, rfl⟩ := Option.map_eq_some_iff.mp hresult
          exact h.replace (ih false _ (h.lookup hlookup) inner hinner)
        · rename_i hlookup
          obtain ⟨latest, hlatest, rfl⟩ := Option.map_eq_some_iff.mp hresult
          obtain ⟨hbefore, hearlier⟩ := distinct_tables.mp (h.lookup hlookup)
          exact h.replace (distinct_tables.mpr ⟨ih false _ hbefore latest hlatest, hearlier⟩)
        · cases hresult
        · cases hresult
      · simp

end Entries

/-! ### Tokens -/

variable {cs : List Char} {value : Value}

theorem isFlat_ofInt (n : Int) : (ofInt n).isFlat = true := by
  rw [ofInt]
  split <;> rfl

theorem isFlat_of_based? {base : Nat} {isDigit : Char → Bool}
    (h : based? base isDigit cs = some value) : value.isFlat = true := by
  rw [based?] at h
  split at h
  · obtain rfl := Option.some.inj h
    split
    · rfl
    · exact isFlat_ofInt _
  · cases h

theorem isFlat_of_whole? {negative : Bool} (h : whole? negative cs = some value) :
    value.isFlat = true := by
  rw [whole?] at h
  split at h
  · split at h
    · obtain rfl := Option.some.inj h
      exact isFlat_ofInt _
    · obtain rfl := Option.some.inj h
      rfl
  · cases h

theorem isFlat_of_float? {literal : List Char} (h : float? literal cs = some value) :
    value.isFlat = true := by
  obtain ⟨-, -, h⟩ := Option.bind_eq_some_iff.mp h
  obtain ⟨⟨m, e⟩, -, h⟩ := Option.bind_eq_some_iff.mp h
  obtain rfl := Option.some.inj h
  split <;> rfl

theorem isFlat_of_decimal? (h : decimal? cs = some value) : value.isFlat = true := by
  rw [decimal?] at h
  obtain ⟨negative, unsigned⟩ := splitSign cs
  dsimp only at h
  split at h
  · obtain rfl := Option.some.inj h
    rfl
  · split at h
    · exact isFlat_of_float? h
    · exact isFlat_of_whole? h

/-- A token denotes nothing that holds values. -/
theorem isFlat_of_scalar? (h : scalar? cs = some value) : value.isFlat = true := by
  rw [scalar?] at h
  split at h
  · obtain rfl := Option.some.inj h
    rfl
  · split at h
    · obtain rfl := Option.some.inj h
      rfl
    · split at h
      · obtain rfl := Option.some.inj h
        rfl
      · split at h
        · cases h
        · rw [number?.eq_def] at h
          split at h
          · exact isFlat_of_based? h
          · exact isFlat_of_based? h
          · exact isFlat_of_based? h
          · exact isFlat_of_decimal? h

/-! ### Values -/

/-- A reader that gives only values in which no table has a key twice. -/
def ReadsDistinct (read : List Char → Option (Value × List Char)) : Prop :=
  ∀ cs, ∀ result ∈ read cs, result.1.Distinct

variable {read : List Char → Option (Value × List Char)} {rest : List Char}

theorem readsDistinct_flatValue? : ReadsDistinct flatValue? := by
  intro cs result hresult
  rw [flatValue?.eq_def] at hresult
  split at hresult
  · obtain ⟨text, -, rfl⟩ := Option.map_eq_some_iff.mp hresult
    exact .flat rfl
  · obtain ⟨text, -, rfl⟩ := Option.map_eq_some_iff.mp hresult
    exact .flat rfl
  · obtain ⟨value, hvalue, rfl⟩ := Option.map_eq_some_iff.mp hresult
    exact .flat (isFlat_of_scalar? hvalue)

theorem distinct_of_elements? (hread : ReadsDistinct read) {bound : Nat} {items : List Value}
    (h : elements? read bound cs = some (items, rest)) : ∀ item ∈ items, item.Distinct := by
  induction bound generalizing cs items rest with
  | zero => cases h
  | succ bound ih =>
    rw [elements?] at h
    split at h
    · obtain ⟨rfl, -⟩ := Prod.mk.inj (Option.some.inj h)
      exact nofun
    · obtain ⟨⟨item, middle⟩, hitem, h⟩ := Option.bind_eq_some_iff.mp h
      have hfirst : item.Distinct := hread _ _ hitem
      dsimp only at h
      split at h
      · obtain ⟨rfl, -⟩ := Prod.mk.inj (Option.some.inj h)
        exact List.forall_mem_singleton.mpr hfirst
      · obtain ⟨⟨later, last⟩, hlater, h⟩ := Option.bind_eq_some_iff.mp h
        obtain ⟨rfl, -⟩ := Prod.mk.inj (Option.some.inj h)
        exact List.forall_mem_cons.mpr ⟨hfirst, ih hlater⟩
      · cases h

theorem distinct_of_fields? (hread : ReadsDistinct read) {bound : Nat} {entries result : Entries}
    (hentries : entries.Distinct) (h : fields? read bound entries cs = some (result, rest)) :
    result.Distinct := by
  induction bound generalizing cs entries with
  | zero => cases h
  | succ bound ih =>
    rw [fields?] at h
    split at h
    · obtain ⟨rfl, -⟩ := Prod.mk.inj (Option.some.inj h)
      exact hentries
    · obtain ⟨⟨path, behindKey⟩, -, h⟩ := Option.bind_eq_some_iff.mp h
      obtain ⟨behindMark, -, h⟩ := Option.bind_eq_some_iff.mp h
      obtain ⟨⟨value, behindValue⟩, hvalue, h⟩ := Option.bind_eq_some_iff.mp h
      obtain ⟨added, hadded, h⟩ := Option.bind_eq_some_iff.mp h
      have hkept : Entries.Distinct added :=
        Entries.keeps_assign (hread _ _ hvalue) true path entries hentries added hadded
      split at h
      · obtain ⟨rfl, -⟩ := Prod.mk.inj (Option.some.inj h)
        exact hkept
      · exact ih hkept h
      · cases h

/-- **Values as they are written**, arrays and inline tables within each other. -/
theorem distinct_of_valueWithin? (bound depth : Nat) :
    ReadsDistinct (valueWithin? bound depth) := by
  induction depth with
  | zero =>
    intro cs result hresult
    exact readsDistinct_flatValue? cs result hresult
  | succ depth ih =>
    intro cs result hresult
    rw [valueWithin?.eq_def] at hresult
    split at hresult
    · rename_i hdepth
      obtain rfl := Nat.succ.inj hdepth
      obtain ⟨⟨items, rest⟩, hitems, hresult⟩ := Option.bind_eq_some_iff.mp hresult
      obtain rfl := Option.some.inj hresult
      exact .array (distinct_of_elements? ih hitems)
    · rename_i hdepth
      obtain rfl := Nat.succ.inj hdepth
      obtain ⟨⟨entries, rest⟩, hentries, hresult⟩ := Option.bind_eq_some_iff.mp hresult
      obtain rfl := Option.some.inj hresult
      exact distinct_of_fields? ih Entries.distinct_nil hentries
    · exact readsDistinct_flatValue? _ result hresult

/-! ### Documents -/

/-- A statement whose value, if it gives one, has no key twice in any table. -/
def Statement.Distinct : Statement → Prop
  | .entry _ value => value.Distinct
  | .table _ | .tableItem _ => True

theorem distinct_of_statement? {bound : Nat} {statement : Statement}
    (h : statement? bound cs = some (statement, rest)) : statement.Distinct := by
  rw [statement?.eq_def] at h
  split at h
  · simp only [Option.bind_eq_bind, Option.bind_eq_some_iff, Option.pure_def,
      Option.some.injEq, Prod.mk.injEq] at h
    obtain ⟨_, -, _, -, _, -, rfl, -⟩ := h
    trivial
  · simp only [Option.bind_eq_bind, Option.bind_eq_some_iff, Option.pure_def,
      Option.some.injEq, Prod.mk.injEq] at h
    obtain ⟨_, -, _, -, rfl, -⟩ := h
    trivial
  · simp only [Option.bind_eq_bind, Option.bind_eq_some_iff, Option.pure_def,
      Option.some.injEq, Prod.mk.injEq] at h
    obtain ⟨_, -, _, -, _, hvalue, rfl, -⟩ := h
    exact distinct_of_valueWithin? bound nestingLimit _ _ hvalue

theorem distinct_of_statements? {bound : Nat} {statements : List Statement}
    (h : statements? bound cs = some statements) :
    ∀ statement ∈ statements, statement.Distinct := by
  induction bound generalizing cs statements with
  | zero => cases h
  | succ bound ih =>
    rw [statements?] at h
    split at h
    · obtain rfl := Option.some.inj h
      exact nofun
    · obtain ⟨⟨statement, behind⟩, hfirst, h⟩ := Option.bind_eq_some_iff.mp h
      obtain ⟨nextLine, -, h⟩ := Option.bind_eq_some_iff.mp h
      obtain ⟨later, hlater, h⟩ := Option.bind_eq_some_iff.mp h
      obtain rfl := Option.some.inj h
      exact List.forall_mem_cons.mpr ⟨distinct_of_statement? hfirst, ih hlater⟩

/-- **One statement more.** -/
theorem distinct_of_add? {d d' : Draft} {statement : Statement} (hd : d.root.Distinct)
    (hstatement : statement.Distinct) (h : d.add? statement = some d') : d'.root.Distinct := by
  cases statement with
  | entry path value =>
    obtain ⟨root, hroot, h⟩ := Option.bind_eq_some_iff.mp h
    obtain rfl := Option.some.inj h
    exact Entries.keeps_within (Entries.keeps_assign hstatement true path) d.header d.root hd root
      hroot
  | table path =>
    obtain ⟨key, -, h⟩ := Option.bind_eq_some_iff.mp h
    obtain ⟨root, hroot, h⟩ := Option.bind_eq_some_iff.mp h
    obtain rfl := Option.some.inj h
    exact Entries.keeps_within (Entries.keeps_introduce key) _ d.root hd root hroot
  | tableItem path =>
    obtain ⟨key, -, h⟩ := Option.bind_eq_some_iff.mp h
    obtain ⟨root, hroot, h⟩ := Option.bind_eq_some_iff.mp h
    obtain rfl := Option.some.inj h
    exact Entries.keeps_within (Entries.keeps_introduceItem key) _ d.root hd root hroot

theorem distinct_of_foldlM {statements : List Statement} {d d' : Draft} (hd : d.root.Distinct)
    (hstatements : ∀ statement ∈ statements, statement.Distinct)
    (h : statements.foldlM Draft.add? d = some d') : d'.root.Distinct := by
  induction statements generalizing d with
  | nil =>
    obtain rfl := Option.some.inj h
    exact hd
  | cons statement statements ih =>
    rw [List.foldlM_cons] at h
    obtain ⟨next, hnext, h⟩ := Option.bind_eq_some_iff.mp h
    obtain ⟨hfirst, hlater⟩ := List.forall_mem_cons.mp hstatements
    exact ih (distinct_of_add? hd hfirst hnext) hlater h

/-- **In no table of a document does a key occur twice.** -/
theorem distinct_of_parseBytes? {bytes : List UInt8} {table : Table}
    (h : parseBytes? bytes = some table) : (Value.table table).Distinct := by
  obtain ⟨text, -, h⟩ := Option.bind_eq_some_iff.mp h
  obtain ⟨statements, hstatements, h⟩ := Option.bind_eq_some_iff.mp h
  obtain ⟨draft, hdraft, h⟩ := Option.bind_eq_some_iff.mp h
  obtain rfl := Option.some.inj h
  exact distinct_of_foldlM Entries.distinct_nil (distinct_of_statements? hstatements) hdraft

end CaptureReport.Toml
