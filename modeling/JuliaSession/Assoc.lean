/-!
# Ordered tables

A table from keys to values as the list of its entries in the order the keys were first given.
Writing to a key that is present keeps its place. Objects, environments and every registry of the
library are such tables, so the order that callers see is the order of first insertion.

The statements say what each operation does to lookup and to the list of keys.
-/

namespace JuliaSession

/-- The entries of a table, in order. -/
abbrev Assoc (κ α : Type) := List (κ × α)

namespace Assoc

variable {κ α : Type} [DecidableEq κ]

/-- The value of the first entry for `key`. -/
def get? (key : κ) : Assoc κ α → Option α
  | [] => none
  | (k, v) :: rest => if k = key then some v else get? key rest

/-- Is there an entry for `key`? -/
def has (key : κ) (table : Assoc κ α) : Bool := (get? key table).isSome

/-- The keys in order. -/
def keys (table : Assoc κ α) : List κ := table.map Prod.fst

/-- Set `key` to `value`: in place if it is present, at the end otherwise. -/
def insert (key : κ) (value : α) : Assoc κ α → Assoc κ α
  | [] => [(key, value)]
  | (k, v) :: rest => if k = key then (k, value) :: rest else (k, v) :: insert key value rest

/-- Remove every entry for `key`. -/
def erase (key : κ) (table : Assoc κ α) : Assoc κ α := table.filter fun entry => entry.1 ≠ key

/-- Set the entries of `extra` one after the other. -/
def insertAll (table extra : Assoc κ α) : Assoc κ α :=
  extra.foldl (fun t entry => insert entry.1 entry.2 t) table

@[simp]
theorem get?_nil (key : κ) : get? key ([] : Assoc κ α) = none := rfl

@[simp]
theorem get?_insert_self (key : κ) (value : α) (table : Assoc κ α) :
    get? key (insert key value table) = some value := by
  induction table with
  | nil => simp [insert, get?]
  | cons entry rest ih =>
    obtain ⟨k, v⟩ := entry
    by_cases h : k = key <;> simp [insert, get?, h, ih]

theorem get?_insert_of_ne {key other : κ} (h : other ≠ key) (value : α) (table : Assoc κ α) :
    get? other (insert key value table) = get? other table := by
  induction table with
  | nil => simp [insert, get?, h.symm]
  | cons entry rest ih =>
    obtain ⟨k, v⟩ := entry
    by_cases hk : k = key
    · subst hk; simp [insert, get?, h.symm]
    · simp [insert, get?, hk, ih]

theorem get?_insert (key other : κ) (value : α) (table : Assoc κ α) :
    get? other (insert key value table) = if other = key then some value else get? other table := by
  split
  next h => subst h; exact get?_insert_self _ _ _
  next h => exact get?_insert_of_ne h _ _

theorem get?_erase_self (key : κ) (table : Assoc κ α) : get? key (erase key table) = none := by
  induction table with
  | nil => rfl
  | cons entry rest ih =>
    obtain ⟨k, v⟩ := entry
    by_cases h : k = key
    · simpa [erase, h] using ih
    · simp only [erase, List.filter_cons, ne_eq, h, not_false_eq_true, decide_true, if_true, get?]
      simpa [h, erase] using ih

theorem get?_erase_of_ne {key other : κ} (h : other ≠ key) (table : Assoc κ α) :
    get? other (erase key table) = get? other table := by
  induction table with
  | nil => rfl
  | cons entry rest ih =>
    obtain ⟨k, v⟩ := entry
    by_cases hk : k = key
    · subst hk
      simpa [erase, get?, h.symm] using ih
    · by_cases ho : k = other
      · simp [erase, ho, get?, h]
      · simpa [erase, hk, ho, get?] using ih

theorem get?_erase (key other : κ) (table : Assoc κ α) :
    get? other (erase key table) = if other = key then none else get? other table := by
  split
  next h =>
    rw [h]
    exact get?_erase_self key table
  next h => exact get?_erase_of_ne h table

theorem has_insert_iff {key other : κ} {value : α} {table : Assoc κ α} :
    has other (insert key value table) = true ↔ other = key ∨ has other table = true := by
  rw [has, get?_insert, has]
  split
  next h => exact ⟨fun _ => .inl h, fun _ => rfl⟩
  next h => exact ⟨.inr, fun hor => hor.resolve_left h⟩

theorem has_erase_iff {key other : κ} {table : Assoc κ α} :
    has other (erase key table) = true ↔ other ≠ key ∧ has other table = true := by
  rw [has, get?_erase, has]
  split
  next h => exact ⟨nofun, fun hand => absurd h hand.1⟩
  next h => exact ⟨fun hhas => ⟨h, hhas⟩, And.right⟩

theorem has_iff_mem_keys {key : κ} {table : Assoc κ α} :
    has key table = true ↔ key ∈ keys table := by
  induction table with
  | nil => simp [has, keys]
  | cons entry rest ih =>
    obtain ⟨k, v⟩ := entry
    by_cases h : k = key
    · simp [has, get?, keys, h]
    · have hk : ¬key = k := fun e => h e.symm
      simpa [has, get?, keys, h, hk] using ih

theorem get?_eq_none_of_not_mem {key : κ} {table : Assoc κ α} (h : key ∉ keys table) :
    get? key table = none :=
  Option.not_isSome_iff_eq_none.1 (mt has_iff_mem_keys.1 h)

theorem not_mem_keys_of_get?_eq_none {key : κ} {table : Assoc κ α} (h : get? key table = none) :
    key ∉ keys table := by
  rw [← has_iff_mem_keys, has, h]
  exact Bool.false_ne_true

/-- A table in which no key is found is empty. -/
theorem eq_nil_of_get?_eq_none {table : Assoc κ α} (h : ∀ key, get? key table = none) :
    table = [] := by
  cases table with
  | nil => rfl
  | cons entry rest => exact absurd List.mem_cons_self (not_mem_keys_of_get?_eq_none (h entry.1))

/-- An entry of a table without repeated keys is what its key is looked up to. -/
theorem get?_of_mem {key : κ} {value : α} {table : Assoc κ α} (hkeys : (keys table).Nodup)
    (h : (key, value) ∈ table) : get? key table = some value := by
  induction table with
  | nil => cases h
  | cons entry rest ih =>
    obtain ⟨k, v⟩ := entry
    obtain ⟨hfirst, hrest⟩ := List.nodup_cons.1 hkeys
    rcases List.mem_cons.1 h with heq | hmem
    · cases heq
      exact if_pos rfl
    · have hkey : key ∈ keys rest := List.mem_map_of_mem (f := Prod.fst) hmem
      rw [get?, if_neg fun heq : k = key => hfirst (heq ▸ hkey)]
      exact ih hrest hmem

theorem insert_of_not_mem {key : κ} {table : Assoc κ α} (h : key ∉ keys table) (value : α) :
    insert key value table = table ++ [(key, value)] := by
  induction table with
  | nil => rfl
  | cons entry rest ih =>
    obtain ⟨k, v⟩ := entry
    simp only [keys, List.map_cons, List.mem_cons, not_or] at h
    rw [insert, if_neg fun heq => h.1 heq.symm, ih h.2, List.cons_append]

theorem keys_insert_of_mem {key : κ} {table : Assoc κ α} (h : key ∈ keys table) (value : α) :
    keys (insert key value table) = keys table := by
  induction table with
  | nil => simp [keys] at h
  | cons entry rest ih =>
    obtain ⟨k, v⟩ := entry
    by_cases hk : k = key
    · simp [insert, keys, hk]
    · have : key ∈ keys rest := by
        rcases List.mem_cons.1 h with h | h
        · exact absurd h.symm hk
        · exact h
      simpa [insert, keys, hk] using ih this

theorem keys_insert_of_not_mem {key : κ} {table : Assoc κ α} (h : key ∉ keys table) (value : α) :
    keys (insert key value table) = keys table ++ [key] := by
  induction table with
  | nil => rfl
  | cons entry rest ih =>
    obtain ⟨k, v⟩ := entry
    simp only [keys, List.map_cons, List.mem_cons, not_or] at h
    have hk : ¬k = key := fun e => h.1 e.symm
    simpa [insert, keys, hk] using ih h.2

theorem keys_erase (key : κ) (table : Assoc κ α) :
    keys (erase key table) = (keys table).filter (· ≠ key) := by
  simp [keys, erase, List.filter_map, Function.comp_def]

/-- Nothing is removed for a key that is not there. -/
theorem erase_of_not_mem {key : κ} {table : Assoc κ α} (h : key ∉ keys table) :
    erase key table = table := by
  refine List.filter_eq_self.2 fun entry hentry => decide_eq_true ?_
  exact fun heq => h (heq ▸ List.mem_map_of_mem hentry)

/-- The first entry is removed for its key. -/
theorem erase_cons_self {key : κ} {rest : Assoc κ α} (h : key ∉ keys rest) (value : α) :
    erase key ((key, value) :: rest) = rest := by
  have hrest := erase_of_not_mem h
  rw [erase] at hrest ⊢
  rw [List.filter_cons_of_neg (by simp), hrest]

/-- A new key that is removed again leaves no trace. -/
theorem erase_insert_of_not_mem {key : κ} {table : Assoc κ α} (h : key ∉ keys table) (value : α) :
    erase key (insert key value table) = table := by
  have htable := erase_of_not_mem h
  rw [erase] at htable ⊢
  rw [insert_of_not_mem h, List.filter_append, htable, List.filter_cons_of_neg (by simp),
    List.filter_nil, List.append_nil]

/-- Writing never makes a key appear twice. -/
theorem nodup_keys_insert {table : Assoc κ α} (h : (keys table).Nodup) (key : κ) (value : α) :
    (keys (insert key value table)).Nodup := by
  by_cases hk : key ∈ keys table
  · rwa [keys_insert_of_mem hk]
  · rw [keys_insert_of_not_mem hk, List.nodup_append]
    exact ⟨h, by simp, fun a ha b hb e => hk (by simp_all)⟩

theorem nodup_keys_erase {table : Assoc κ α} (h : (keys table).Nodup) (key : κ) :
    (keys (erase key table)).Nodup := by
  rw [keys_erase]
  exact h.filter _

/-! ### Several entries -/

@[simp]
theorem insertAll_nil (table : Assoc κ α) : insertAll table [] = table := rfl

theorem insertAll_cons (table : Assoc κ α) (entry : κ × α) (extra : Assoc κ α) :
    insertAll table (entry :: extra) = insertAll (insert entry.1 entry.2 table) extra := rfl

theorem insertAll_append (table first second : Assoc κ α) :
    insertAll table (first ++ second) = insertAll (insertAll table first) second :=
  List.foldl_append

theorem mem_keys_insertAll_iff {key : κ} {table extra : Assoc κ α} :
    key ∈ keys (insertAll table extra) ↔ key ∈ keys table ∨ key ∈ keys extra := by
  induction extra generalizing table with
  | nil => simp [keys]
  | cons entry extra ih =>
    rw [insertAll_cons, ih, ← has_iff_mem_keys, has_insert_iff, has_iff_mem_keys,
      or_comm (a := key = entry.1), or_assoc]
    exact or_congr_right List.mem_cons.symm

/-- What is not written stays as it is. -/
theorem get?_insertAll_of_not_mem {key : κ} {table extra : Assoc κ α} (h : key ∉ keys extra) :
    get? key (insertAll table extra) = get? key table := by
  induction extra generalizing table with
  | nil => rfl
  | cons entry extra ih =>
    rw [keys, List.map_cons, List.mem_cons, not_or] at h
    rw [insertAll_cons, ih h.2, get?_insert_of_ne h.1]

/-- Entries whose keys are new and differ from each other come at the end. -/
theorem insertAll_of_new {table extra : Assoc κ α} (hextra : (keys extra).Nodup)
    (h : ∀ key ∈ keys extra, key ∉ keys table) : insertAll table extra = table ++ extra := by
  induction extra generalizing table with
  | nil => exact (List.append_nil table).symm
  | cons entry extra ih =>
    obtain ⟨hfirst, hextra⟩ := List.nodup_cons.1 hextra
    have hnew : entry.1 ∉ keys table := h entry.1 List.mem_cons_self
    rw [insertAll_cons, insert_of_not_mem hnew, ih hextra, List.append_assoc,
      List.singleton_append]
    intro key hkey hmem
    rw [keys, List.map_append, List.mem_append] at hmem
    rcases hmem with hmem | hmem
    · exact h key (List.mem_cons_of_mem _ hkey) hmem
    · exact hfirst (List.mem_singleton.1 hmem ▸ hkey)

end Assoc

end JuliaSession
