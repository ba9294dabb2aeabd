/-!
# Tables

A table holds at most one value per key, in the order in which the keys first
came in.  Its view is `get?`; every operation below has one lemma that says what
it does to the view.  That a key occurs once is a field of the type, so the
number of entries is the number of keys.
-/

namespace GameGateway

/-- A finite map with the insertion order of its keys. -/
structure Table (κ : Type) (α : Type) where
  /-- Keys with their values, oldest key first. -/
  entries : List (κ × α)
  nodup_keys : (entries.map Prod.fst).Nodup

namespace Table

variable {κ α : Type}

/-- The table without entries. -/
def empty : Table κ α := ⟨[], by simp⟩

/-- The keys, oldest first. -/
def keys (t : Table κ α) : List κ := t.entries.map Prod.fst

/-- The values, oldest key first. -/
def values (t : Table κ α) : List α := t.entries.map Prod.snd

/-- Number of entries. -/
def size (t : Table κ α) : Nat := t.entries.length

/-- The entries that satisfy a test on key and value. -/
def filter (keep : κ → α → Bool) (t : Table κ α) : Table κ α where
  entries := t.entries.filter fun entry => keep entry.1 entry.2
  nodup_keys := t.nodup_keys.sublist (List.filter_sublist.map _)

/-- The same keys with the values `f` gives. -/
def map {β : Type} (f : κ → α → β) (t : Table κ α) : Table κ β where
  entries := t.entries.map fun entry => (entry.1, f entry.1 entry.2)
  nodup_keys := by simpa [Function.comp_def] using t.nodup_keys

variable [DecidableEq κ]

/-- The value of the first pair with the given key. -/
private def find (key : κ) : List (κ × α) → Option α
  | [] => none
  | (first, stored) :: rest => if key = first then some stored else find key rest

/-- The value stored under `key`. -/
def get? (t : Table κ α) (key : κ) : Option α :=
  find key t.entries

/-- Is there a value under `key`? -/
def contains (t : Table κ α) (key : κ) : Bool :=
  (t.get? key).isSome

/-- The table without `key`. -/
def erase (t : Table κ α) (key : κ) : Table κ α :=
  t.filter fun k _ => k ≠ key

/-- The entries with the value of `key` set: an old key keeps its place, a new
key comes last. -/
private def put (key : κ) (value : α) : List (κ × α) → List (κ × α)
  | [] => [(key, value)]
  | entry :: rest =>
      if entry.1 = key then (key, value) :: rest else entry :: put key value rest

private theorem mem_keys_put {key k : κ} {value : α} {entries : List (κ × α)} :
    k ∈ (put key value entries).map Prod.fst ↔ k = key ∨ k ∈ entries.map Prod.fst := by
  induction entries with
  | nil => simp [put]
  | cons entry rest ih =>
      by_cases h : entry.1 = key
      · simp [put, h]
      · simp only [put, h, ↓reduceIte, List.map_cons, List.mem_cons, ih]
        constructor <;> rintro (h | h | h) <;> simp [h]

private theorem nodup_put {key : κ} {value : α} {entries : List (κ × α)}
    (h : (entries.map Prod.fst).Nodup) : ((put key value entries).map Prod.fst).Nodup := by
  induction entries with
  | nil => simp [put]
  | cons entry rest ih =>
      rw [List.map_cons, List.nodup_cons] at h
      by_cases hkey : entry.1 = key
      · simp only [put, hkey, ↓reduceIte, List.map_cons, List.nodup_cons]
        exact ⟨hkey ▸ h.1, h.2⟩
      · simp only [put, hkey, ↓reduceIte, List.map_cons, List.nodup_cons, mem_keys_put]
        exact ⟨by simp_all, ih h.2⟩

/-- The table with `value` under `key`, whatever was there before. -/
def insert (t : Table κ α) (key : κ) (value : α) : Table κ α where
  entries := put key value t.entries
  nodup_keys := nodup_put t.nodup_keys

/-- The table with `f` applied to the value of `key`, if there is one. -/
def update (t : Table κ α) (key : κ) (f : α → α) : Table κ α :=
  match t.get? key with
  | none => t
  | some value => t.insert key (f value)

/-- The table that pairs lead to when they are inserted from first to last. -/
def ofList (pairs : List (κ × α)) : Table κ α :=
  pairs.foldl (fun t pair => t.insert pair.1 pair.2) empty

@[simp] theorem get?_empty (key : κ) : (empty : Table κ α).get? key = none := rfl

omit [DecidableEq κ] in
@[simp] theorem size_empty : (empty : Table κ α).size = 0 := rfl

private theorem find_put {key k : κ} {value : α} {entries : List (κ × α)} :
    find k (put key value entries) = if k = key then some value else find k entries := by
  induction entries with
  | nil => simp [put, find]
  | cons entry rest ih =>
      obtain ⟨first, stored⟩ := entry
      by_cases hfirst : first = key
      · subst hfirst
        simp only [put, ↓reduceIte, find]
        split <;> rfl
      · simp only [put, hfirst, ↓reduceIte, find, ih]
        by_cases h : k = key
        · subst h
          simp [Ne.symm hfirst]
        · simp [h]

private theorem find_eq_none {k : κ} {entries : List (κ × α)}
    (h : k ∉ entries.map Prod.fst) : find k entries = none := by
  induction entries with
  | nil => rfl
  | cons entry rest ih =>
      simp only [List.map_cons, List.mem_cons, not_or] at h
      simp [find, h.1, ih h.2]

/-- Inserting changes the value of that key and of no other. -/
@[simp] theorem get?_insert (t : Table κ α) (key k : κ) (value : α) :
    (t.insert key value).get? k = if k = key then some value else t.get? k :=
  find_put

theorem get?_update (t : Table κ α) (key k : κ) (f : α → α) :
    (t.update key f).get? k = if k = key then (t.get? k).map f else t.get? k := by
  unfold update
  split
  · rename_i hnone
    split
    · rename_i hk
      rw [hk, hnone]
      rfl
    · rfl
  · rename_i value hsome
    rw [get?_insert]
    split
    · rename_i hk
      rw [hk, hsome]
      rfl
    · rfl

private theorem find_filter {keep : κ → α → Bool} {k : κ} {entries : List (κ × α)}
    (h : (entries.map Prod.fst).Nodup) :
    find k (entries.filter fun entry => keep entry.1 entry.2) =
      (find k entries).filter (keep k) := by
  induction entries with
  | nil => rfl
  | cons entry rest ih =>
      obtain ⟨first, stored⟩ := entry
      rw [List.map_cons, List.nodup_cons] at h
      have ih := ih h.2
      by_cases hk : k = first
      · subst hk
        rw [find_eq_none h.1] at ih
        by_cases hkeep : keep k stored
        · simp [hkeep, find, Option.filter]
        · simp only [List.filter_cons, hkeep, find, Option.filter, ↓reduceIte]
          simpa [Option.filter] using ih
      · by_cases hkeep : keep first stored <;> simp [hkeep, find, hk, ih]

/-- Filtering keeps a value exactly when it passes the test. -/
theorem get?_filter (t : Table κ α) (keep : κ → α → Bool) (k : κ) :
    (t.filter keep).get? k = (t.get? k).filter (keep k) :=
  find_filter t.nodup_keys

/-- Erasing removes that key and no other. -/
@[simp] theorem get?_erase (t : Table κ α) (key k : κ) :
    (t.erase key).get? k = if k = key then none else t.get? k := by
  rw [erase, get?_filter]
  by_cases h : k = key
  · cases hv : t.get? k <;> simp [h, Option.filter]
  · cases hv : t.get? k <;> simp [h, Option.filter]

/-- A key is listed exactly when it has a value. -/
theorem mem_keys_iff {t : Table κ α} {key : κ} : key ∈ t.keys ↔ (t.get? key).isSome := by
  unfold keys get?
  induction t.entries with
  | nil => simp [find]
  | cons entry rest ih =>
      obtain ⟨first, stored⟩ := entry
      by_cases h : key = first <;> simp [find, h, ← ih]

/-- An entry is in the list exactly when its value is the one stored under its key. -/
theorem mem_entries_iff {t : Table κ α} {key : κ} {value : α} :
    (key, value) ∈ t.entries ↔ t.get? key = some value := by
  have hnodup := t.nodup_keys
  unfold get?
  generalize t.entries = entries at hnodup ⊢
  induction entries with
  | nil => simp [find]
  | cons entry rest ih =>
      obtain ⟨first, stored⟩ := entry
      simp only [List.map_cons, List.nodup_cons] at hnodup
      have ih := ih hnodup.2
      by_cases h : key = first
      · subst h
        have hrest : ∀ v, (key, v) ∉ rest := fun v hv =>
          hnodup.1 (List.mem_map_of_mem (f := Prod.fst) hv)
        simp [find, hrest, eq_comm]
      · simp [find, h, ← ih]

omit [DecidableEq κ] in
theorem size_filter_le (t : Table κ α) (keep : κ → α → Bool) :
    (t.filter keep).size ≤ t.size :=
  List.length_filter_le ..

end Table

end GameGateway
