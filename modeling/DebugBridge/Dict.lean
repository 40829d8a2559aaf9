/-!
# Dictionaries in key order

A dictionary keyed by text keeps its entries strictly ascending by key. The order of strings is by
code point, which is also the order of their UTF-8 bytes. Strict order makes the list of entries
canonical, so two dictionaries are equal when they answer every look-up alike.

Results: `get?_insert`, `get?_erase`, `get?_filterKeys` say what each operation does to look-ups;
`ext_get?` is extensionality; `ofList_of_perm`, the order in which entries are put in does not count.
-/

namespace DebugBridge

/-- A finite map from texts, with its entries in ascending order of the key. -/
structure Dict (α : Type) where
  /-- The entries. -/
  entries : List (String × α)
  /-- The keys ascend strictly. -/
  ascending : entries.Pairwise fun a b => a.1 < b.1

namespace Dict

variable {α β : Type}

/-! ## Entries -/

/-- Puts an entry in its place, replacing one with the same key. -/
def insertEntry (k : String) (v : α) : List (String × α) → List (String × α)
  | [] => [(k, v)]
  | e :: rest =>
    if k < e.1 then (k, v) :: e :: rest
    else if k = e.1 then (k, v) :: rest
    else e :: insertEntry k v rest

/-- The value under a key. -/
def lookupEntry (k : String) : List (String × α) → Option α
  | [] => none
  | e :: rest => if k = e.1 then some e.2 else lookupEntry k rest

theorem mem_insertEntry {k : String} {v : α} {e : String × α} {l : List (String × α)}
    (h : e ∈ insertEntry k v l) : e = (k, v) ∨ e ∈ l := by
  induction l with
  | nil => simpa [insertEntry] using h
  | cons x rest ih => grind [insertEntry]

theorem ascending_insertEntry (k : String) (v : α) {l : List (String × α)}
    (h : l.Pairwise fun a b => a.1 < b.1) :
    (insertEntry k v l).Pairwise fun a b => a.1 < b.1 := by
  induction l with
  | nil => simp [insertEntry]
  | cons x rest ih =>
    obtain ⟨hx, hrest⟩ := List.pairwise_cons.1 h
    rw [insertEntry]
    split
    · rename_i hlt
      refine List.pairwise_cons.2 ⟨fun y hy => ?_, h⟩
      rcases List.mem_cons.1 hy with rfl | hy
      · exact hlt
      · exact String.lt_trans hlt (hx y hy)
    · rename_i hlt
      split
      · rename_i heq
        subst heq
        exact List.pairwise_cons.2 ⟨hx, hrest⟩
      · rename_i hne
        refine List.pairwise_cons.2 ⟨fun y hy => ?_, ih hrest⟩
        rcases mem_insertEntry hy with rfl | hy
        · exact Std.lt_of_le_of_ne (String.not_lt.1 hlt) (Ne.symm hne)
        · exact hx y hy

/-! ## Operations -/

/-- No entries. -/
def empty : Dict α := ⟨[], List.Pairwise.nil⟩

instance : Inhabited (Dict α) := ⟨empty⟩

instance : EmptyCollection (Dict α) := ⟨empty⟩

/-- The value under a key. -/
def get? (d : Dict α) (k : String) : Option α := lookupEntry k d.entries

/-- Is there an entry with this key? -/
def contains (d : Dict α) (k : String) : Bool := (d.get? k).isSome

/-- Sets the value under a key. -/
def insert (d : Dict α) (k : String) (v : α) : Dict α :=
  ⟨insertEntry k v d.entries, ascending_insertEntry k v d.ascending⟩

/-- Keeps the entries whose key passes a test. -/
def filterKeys (d : Dict α) (p : String → Bool) : Dict α :=
  ⟨d.entries.filter fun e => p e.1, d.ascending.sublist List.filter_sublist⟩

/-- Removes a key. -/
def erase (d : Dict α) (k : String) : Dict α := d.filterKeys (· != k)

/-- Applies a function to every value. -/
def map (f : α → β) (d : Dict α) : Dict β :=
  ⟨d.entries.map fun e => (e.1, f e.2), by
    simpa [List.pairwise_map] using d.ascending⟩

/-- Applies a function to every key and value. -/
def mapWithKey (f : String → α → β) (d : Dict α) : Dict β :=
  ⟨d.entries.map fun e => (e.1, f e.1 e.2), by
    simpa [List.pairwise_map] using d.ascending⟩

/-- The keys, ascending. -/
def keys (d : Dict α) : List String := d.entries.map (·.1)

/-- The number of entries. -/
def size (d : Dict α) : Nat := d.entries.length

/-- Are there no entries? -/
def isEmpty (d : Dict α) : Bool := d.entries.isEmpty

/-- The dictionary of some entries; of two with one key the later counts. -/
def ofList (l : List (String × α)) : Dict α := l.foldl (fun d e => d.insert e.1 e.2) empty

/-! ## Equality -/

theorem eq_of_entries_eq {d e : Dict α} (h : d.entries = e.entries) : d = e := by
  cases d; cases e; cases h; rfl

instance [DecidableEq α] : DecidableEq (Dict α) := fun d e =>
  if h : d.entries = e.entries then .isTrue (eq_of_entries_eq h)
  else .isFalse fun he => h (he ▸ rfl)

instance [Repr α] : Repr (Dict α) := ⟨fun d n => reprPrec d.entries n⟩

/-! ## Look-ups -/

theorem lookupEntry_insertEntry (k k' : String) (v : α) {l : List (String × α)}
    (h : l.Pairwise fun a b => a.1 < b.1) :
    lookupEntry k' (insertEntry k v l) = if k' = k then some v else lookupEntry k' l := by
  induction l with
  | nil => simp [insertEntry, lookupEntry]
  | cons x rest ih =>
    have ih := ih (List.pairwise_cons.1 h).2
    grind [insertEntry, lookupEntry]

@[simp] theorem get?_empty (k : String) : (empty : Dict α).get? k = none := rfl

theorem get?_insert (d : Dict α) (k k' : String) (v : α) :
    (d.insert k v).get? k' = if k' = k then some v else d.get? k' :=
  lookupEntry_insertEntry k k' v d.ascending

theorem lookupEntry_filter (p : String → Bool) (k : String) (l : List (String × α)) :
    lookupEntry k (l.filter fun e => p e.1) = if p k then lookupEntry k l else none := by
  induction l with
  | nil => simp [lookupEntry]
  | cons x rest ih => grind [lookupEntry]

theorem get?_filterKeys (d : Dict α) (p : String → Bool) (k : String) :
    (d.filterKeys p).get? k = if p k then d.get? k else none :=
  lookupEntry_filter p k d.entries

theorem get?_erase (d : Dict α) (k k' : String) :
    (d.erase k).get? k' = if k' = k then none else d.get? k' := by
  rw [erase, get?_filterKeys]
  by_cases h : k' = k <;> simp [h]

theorem get?_mapWithKey (f : String → α → β) (d : Dict α) (k : String) :
    (d.mapWithKey f).get? k = (d.get? k).map (f k) := by
  obtain ⟨l, hl⟩ := d
  simp only [mapWithKey, get?]
  clear hl
  induction l with
  | nil => rfl
  | cons x rest ih =>
    by_cases h : k = x.1
    · subst h; simp [lookupEntry]
    · simpa [lookupEntry, h] using ih

theorem mem_iff_lookupEntry {k : String} {v : α} {l : List (String × α)}
    (h : l.Pairwise fun a b => a.1 < b.1) : (k, v) ∈ l ↔ lookupEntry k l = some v := by
  induction l with
  | nil => simp [lookupEntry]
  | cons x rest ih =>
    obtain ⟨hx, hrest⟩ := List.pairwise_cons.1 h
    have ih := ih hrest
    have hirr := String.lt_irrefl k
    constructor
    · intro hm
      rcases List.mem_cons.1 hm with rfl | hm
      · simp [lookupEntry]
      · have : k ≠ x.1 := fun he => hirr (by simpa [he] using hx _ hm)
        simp [lookupEntry, this, ih.1 hm]
    · grind [lookupEntry]

theorem mem_entries_iff {d : Dict α} {k : String} {v : α} :
    (k, v) ∈ d.entries ↔ d.get? k = some v :=
  mem_iff_lookupEntry d.ascending

/-- Dictionaries that answer every look-up alike are equal. -/
theorem ext_get? {d e : Dict α} (h : ∀ k, d.get? k = e.get? k) : d = e := by
  have hmem : ∀ x, x ∈ d.entries ↔ x ∈ e.entries := fun x => by
    obtain ⟨k, v⟩ := x
    rw [mem_entries_iff, mem_entries_iff, h k]
  apply eq_of_entries_eq
  obtain ⟨l, hl⟩ := d
  obtain ⟨m, hm⟩ := e
  simp only at hmem ⊢
  clear h
  induction l generalizing m with
  | nil =>
    cases m with
    | nil => rfl
    | cons y ys => exact absurd ((hmem y).2 List.mem_cons_self) List.not_mem_nil
  | cons x xs ih =>
    cases m with
    | nil => exact absurd ((hmem x).1 List.mem_cons_self) List.not_mem_nil
    | cons y ys =>
      obtain ⟨hx, hxs⟩ := List.pairwise_cons.1 hl
      obtain ⟨hy, hys⟩ := List.pairwise_cons.1 hm
      have hxy : x = y := by
        rcases List.mem_cons.1 ((hmem x).1 List.mem_cons_self) with h1 | h1
        · exact h1
        · rcases List.mem_cons.1 ((hmem y).2 List.mem_cons_self) with h2 | h2
          · exact h2.symm
          · exact absurd (hy x h1) (String.lt_asymm (hx y h2))
      subst hxy
      congr 1
      refine ih hxs ys hys fun z => ⟨fun hz => ?_, fun hz => ?_⟩
      · rcases List.mem_cons.1 ((hmem z).1 (List.mem_cons_of_mem _ hz)) with rfl | h1
        · exact absurd (hx z hz) (String.lt_irrefl _)
        · exact h1
      · rcases List.mem_cons.1 ((hmem z).2 (List.mem_cons_of_mem _ hz)) with rfl | h1
        · exact absurd (hy z hz) (String.lt_irrefl _)
        · exact h1

theorem insert_insert (d : Dict α) (k : String) (v w : α) :
    (d.insert k v).insert k w = d.insert k w := by
  apply ext_get?
  intro k'
  rw [get?_insert, get?_insert, get?_insert]
  split
  · rfl
  · rfl

/-! ## Entries in any order -/

theorem get?_foldl_insert {l : List (String × α)} (hl : (l.map (·.1)).Nodup) (d : Dict α) (k : String)
    (v : α) :
    (l.foldl (fun d e => d.insert e.1 e.2) d).get? k = some v ↔
      (k, v) ∈ l ∨ k ∉ l.map (·.1) ∧ d.get? k = some v := by
  induction l generalizing d with
  | nil => simp
  | cons e l ih =>
    obtain ⟨a, b⟩ := e
    obtain ⟨ha, hl⟩ := List.nodup_cons.1 hl
    rw [List.foldl_cons, ih hl, get?_insert]
    by_cases hk : k = a
    · subst hk
      have hnot : (k, v) ∉ l := fun hmem => ha (List.mem_map.2 ⟨_, hmem, rfl⟩)
      simp [ha, hnot, eq_comm]
    · simp [hk]

theorem nodup_keys (d : Dict α) : (d.entries.map (·.1)).Nodup := by
  rw [List.Nodup, List.pairwise_map]
  refine d.ascending.imp fun hlt heq => ?_
  rw [heq] at hlt
  exact String.lt_irrefl _ hlt

/-- A dictionary is that of its entries, in whatever order they are put in. -/
theorem ofList_of_perm {d : Dict α} {l : List (String × α)} (h : l.Perm d.entries) : ofList l = d := by
  have hl : (l.map (·.1)).Nodup := (h.map _).nodup_iff.2 d.nodup_keys
  refine ext_get? fun k => Option.ext fun v => ?_
  rw [ofList, get?_foldl_insert hl, get?_empty, h.mem_iff, mem_entries_iff]
  simp

end Dict

end DebugBridge
