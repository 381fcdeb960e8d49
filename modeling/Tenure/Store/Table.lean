/-!
# Tables

A table maps text keys to bytes and lists them in ascending order of the keys. The order is
that of code points, which is also the order of the keys' UTF-8 bytes.

`Table.get?` is the view of a table: two tables with the same entries are equal, and each
operation is described by what it does to `get?`.
-/
namespace Tenure

abbrev Bytes := List UInt8

structure Table where
  entries : List (String × Bytes)
  ascending : entries.Pairwise fun a b => a.1 < b.1

namespace Table

def empty : Table := ⟨[], .nil⟩

def keys (t : Table) : List String := t.entries.map Prod.fst

def get? (t : Table) (key : String) : Option Bytes := t.entries.lookup key

/-! ## Writing -/

def insertEntry (key : String) (value : Bytes) : List (String × Bytes) → List (String × Bytes)
  | [] => [(key, value)]
  | entry :: rest =>
    if key < entry.1 then (key, value) :: entry :: rest
    else if key = entry.1 then (key, value) :: rest
    else entry :: insertEntry key value rest

theorem mem_insertEntry {key : String} {value : Bytes} {entries : List (String × Bytes)}
    {entry : String × Bytes} (h : entry ∈ insertEntry key value entries) :
    entry = (key, value) ∨ entry ∈ entries := by
  induction entries with
  | nil => simpa [insertEntry] using h
  | cons first rest ih =>
    simp only [insertEntry] at h
    split at h
    · simpa using h
    · split at h
      · rcases List.mem_cons.1 h with h | h
        · exact .inl h
        · exact .inr (List.mem_cons_of_mem _ h)
      · rcases List.mem_cons.1 h with h | h
        · exact .inr (h ▸ List.mem_cons_self)
        · exact (ih h).imp_right (List.mem_cons_of_mem _)

theorem ascending_insertEntry (key : String) (value : Bytes) {entries : List (String × Bytes)}
    (h : entries.Pairwise fun a b => a.1 < b.1) :
    (insertEntry key value entries).Pairwise fun a b => a.1 < b.1 := by
  induction entries with
  | nil => simp [insertEntry]
  | cons first rest ih =>
    obtain ⟨hfirst, hrest⟩ := List.pairwise_cons.1 h
    simp only [insertEntry]
    split
    case isTrue hlt =>
      refine List.pairwise_cons.2 ⟨fun entry hentry => ?_, h⟩
      rcases List.mem_cons.1 hentry with rfl | hentry
      · exact hlt
      · exact String.lt_trans hlt (hfirst entry hentry)
    case isFalse hlt =>
      split
      case isTrue heq =>
        exact List.pairwise_cons.2 ⟨fun entry hentry => heq ▸ hfirst entry hentry, hrest⟩
      case isFalse heq =>
        refine List.pairwise_cons.2 ⟨fun entry hentry => ?_, ih hrest⟩
        rcases mem_insertEntry hentry with rfl | hentry
        · exact String.not_le.1 fun hle => heq (String.le_antisymm hle (String.not_lt.1 hlt))
        · exact hfirst entry hentry

def insert (t : Table) (key : String) (value : Bytes) : Table :=
  ⟨insertEntry key value t.entries, ascending_insertEntry key value t.ascending⟩

def erase (t : Table) (key : String) : Table :=
  ⟨t.entries.filter fun entry => entry.1 ≠ key, t.ascending.filter _⟩

def contains (t : Table) (key : String) : Bool := (t.get? key).isSome

/-- Replaces every value, and keeps the keys. -/
def mapValues (t : Table) (f : String → Bytes → Bytes) : Table :=
  ⟨t.entries.map fun entry => (entry.1, f entry.1 entry.2), by
    simpa [List.pairwise_map] using t.ascending⟩

/-- Inserts one entry after the other. -/
def insertAll (t : Table) (entries : List (String × Bytes)) : Table :=
  entries.foldl (fun t entry => t.insert entry.1 entry.2) t

def ofEntries (entries : List (String × Bytes)) : Table := empty.insertAll entries

/-! ## What is found under a key -/

section Keys

variable {t t' : Table} {key k : String} {value : Bytes}

theorem lookup_cons (entry : String × Bytes) (rest : List (String × Bytes)) (k : String) :
    (entry :: rest).lookup k = if k = entry.1 then some entry.2 else rest.lookup k := by
  obtain ⟨key, value⟩ := entry
  by_cases same : k = key
  · simp [same]
  · have differs : (k == key) = false := by simpa using same
    simp [List.lookup_cons, differs, same]

theorem get?_insert (t : Table) (key : String) (value : Bytes) (k : String) :
    (t.insert key value).get? k = if k = key then some value else t.get? k := by
  show (insertEntry key value t.entries).lookup k = if k = key then _ else t.entries.lookup k
  induction t.entries with
  | nil => simp [insertEntry, lookup_cons]
  | cons entry rest ih =>
    rw [insertEntry]
    split
    · rw [lookup_cons]
    · split
      · next replaced =>
        rw [lookup_cons, lookup_cons, ← replaced]
        split <;> rfl
      · next other =>
        rw [lookup_cons, lookup_cons, ih]
        by_cases same : k = entry.1
        · simp [same, Ne.symm other]
        · simp [same]

theorem get?_insert_self (t : Table) (key : String) (value : Bytes) :
    (t.insert key value).get? key = some value := by
  rw [get?_insert, if_pos rfl]

theorem get?_erase (t : Table) (key k : String) :
    (t.erase key).get? k = if k = key then none else t.get? k := by
  show (t.entries.filter _).lookup k = if k = key then none else t.entries.lookup k
  induction t.entries with
  | nil => simp
  | cons entry rest ih =>
    by_cases gone : entry.1 = key
    · rw [List.filter_cons_of_neg (by simpa using gone), ih, lookup_cons, gone]
      split <;> rfl
    · rw [List.filter_cons_of_pos (by simpa using gone), lookup_cons, lookup_cons, ih]
      by_cases same : k = entry.1
      · simp [same, gone]
      · simp [same]

theorem get?_mapValues (t : Table) (f : String → Bytes → Bytes) (k : String) :
    (t.mapValues f).get? k = (t.get? k).map (f k) := by
  show (t.entries.map _).lookup k = (t.entries.lookup k).map (f k)
  induction t.entries with
  | nil => rfl
  | cons entry rest ih =>
    rw [List.map_cons, lookup_cons, lookup_cons, ih]
    by_cases same : k = entry.1
    · simp [same]
    · simp [same]

theorem nodup_keys (t : Table) : t.keys.Nodup :=
  List.pairwise_map.mpr (t.ascending.imp fun lt => String.ne_of_lt lt)

theorem mem_keys_iff : k ∈ t.keys ↔ (t.get? k).isSome = true := by
  show k ∈ t.entries.map Prod.fst ↔ (t.entries.lookup k).isSome = true
  induction t.entries with
  | nil => simp
  | cons entry rest ih =>
    rw [List.map_cons, List.mem_cons, lookup_cons, ih]
    by_cases same : k = entry.1 <;> simp [same]

/-- Each value is found under its key. -/
theorem get?_of_mem (mem : (key, value) ∈ t.entries) : t.get? key = some value := by
  obtain ⟨entries, ascending⟩ := t
  show entries.lookup key = some value
  induction entries with
  | nil => cases mem
  | cons entry rest ih =>
    obtain ⟨first, ascending⟩ := List.pairwise_cons.mp ascending
    rw [lookup_cons]
    rcases List.mem_cons.mp mem with rfl | mem
    · simp
    · have later := first _ mem
      have other : key ≠ entry.1 := (String.ne_of_lt later).symm
      rw [if_neg other, ih ascending mem]

theorem mem_of_get? (found : t.get? key = some value) : (key, value) ∈ t.entries := by
  obtain ⟨before, after, eq, -⟩ := List.lookup_eq_some_iff.mp found
  rw [eq]
  exact List.mem_append_right _ List.mem_cons_self

theorem mem_entries_iff : (key, value) ∈ t.entries ↔ t.get? key = some value :=
  ⟨get?_of_mem, mem_of_get?⟩

/-- A table is what is found in it. -/
theorem ext_get? (same : ∀ k, t.get? k = t'.get? k) : t = t' := by
  have nodup (t : Table) : t.entries.Nodup :=
    t.ascending.imp fun {a b} lt (eq : a = b) => String.lt_irrefl b.1 (eq ▸ lt)
  have perm : t.entries.Perm t'.entries :=
    (List.perm_ext_iff_of_nodup (nodup t) (nodup t')).mpr fun ⟨key, value⟩ => by
      rw [mem_entries_iff, mem_entries_iff, same]
  have entries : t.entries = t'.entries :=
    perm.eq_of_pairwise (fun _ _ _ _ lt gt => (String.lt_asymm lt gt).elim) t.ascending
      t'.ascending
  cases t
  cases t'
  congr

end Keys

end Table
end Tenure
