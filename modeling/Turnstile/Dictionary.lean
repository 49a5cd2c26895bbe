/-
# Dictionaries

A finite map kept as a list of entries in the order in which their keys first came.  No key occurs
twice; the type holds that invariant, so the number of entries is the number of keys.

The view is `get?`, and each operation has one equation through it: `get?_insert`,
`get?_filter`, `get?_empty`.
-/

namespace Turnstile

/-- Entries with distinct keys. -/
structure Dictionary (κ : Type) (α : Type) where
  entries : List (κ × α)
  distinct : (entries.map Prod.fst).Nodup

namespace Dictionary

variable {κ α : Type}

/-! ## 1. Operations -/

/-- No entry. -/
def empty : Dictionary κ α := ⟨[], List.nodup_nil⟩

instance : EmptyCollection (Dictionary κ α) := ⟨empty⟩

instance : Inhabited (Dictionary κ α) := ⟨empty⟩

instance [DecidableEq κ] [DecidableEq α] : DecidableEq (Dictionary κ α) := fun a b =>
  decidable_of_iff (a.entries = b.entries)
    ⟨fun h => by cases a; cases b; cases h; rfl, fun h => h ▸ rfl⟩

/-- How many keys there are. -/
def size (d : Dictionary κ α) : Nat :=
  d.entries.length

/-- The keys in order of entry. -/
def keys (d : Dictionary κ α) : List κ :=
  d.entries.map Prod.fst

/-- The entries that satisfy a test. -/
def filter (d : Dictionary κ α) (p : κ → α → Bool) : Dictionary κ α where
  entries := d.entries.filter fun e => p e.1 e.2
  distinct := d.distinct.sublist (List.filter_sublist.map _)

/-- How many entries fail a test. -/
def failing (d : Dictionary κ α) (p : κ → α → Bool) : Nat :=
  d.entries.countP fun e => !p e.1 e.2

/-- An entry either fails a test or stays when the others are removed. -/
theorem failing_add_size_filter (d : Dictionary κ α) (p : κ → α → Bool) :
    d.failing p + (d.filter p).size = d.size := by
  have hcount := List.length_eq_countP_add_countP (fun e : κ × α => p e.1 e.2) (l := d.entries)
  rw [List.countP_eq_length_filter, Nat.add_comm] at hcount
  simpa [failing, size, filter] using hcount.symm

variable [DecidableEq κ]

/-- The value under a key. -/
def get? (d : Dictionary κ α) (k : κ) : Option α :=
  d.entries.lookup k

/-- Whether a key has a value. -/
def contains (d : Dictionary κ α) (k : κ) : Bool :=
  (d.get? k).isSome

/-- Replaces the value under a key of a list of entries; a list without the key stays. -/
def replace (k : κ) (v : α) : List (κ × α) → List (κ × α)
  | [] => []
  | e :: es => if e.1 = k then (k, v) :: es else e :: replace k v es

theorem map_fst_replace (k : κ) (v : α) (es : List (κ × α)) :
    (replace k v es).map Prod.fst = es.map Prod.fst := by
  induction es with
  | nil => rfl
  | cons e es ih => by_cases h : e.1 = k <;> simp [replace, h, ih]

theorem lookup_isSome_iff (k : κ) (es : List (κ × α)) :
    (es.lookup k).isSome ↔ k ∈ es.map Prod.fst := by
  induction es with
  | nil => simp
  | cons e es ih =>
    obtain ⟨j, v⟩ := e
    by_cases h : k = j
    · simp [h]
    · simp only [List.lookup_cons, beq_eq_false_iff_ne.2 h, ih, List.map_cons, List.mem_cons, h,
        false_or]

/-- Sets the value under a key, in the place of an earlier one or behind all others. -/
def insert (d : Dictionary κ α) (k : κ) (v : α) : Dictionary κ α :=
  if h : d.contains k then
    ⟨replace k v d.entries, by rw [map_fst_replace]; exact d.distinct⟩
  else
    ⟨d.entries ++ [(k, v)], by
      have hk : k ∉ d.entries.map Prod.fst := fun hm => h ((lookup_isSome_iff k d.entries).2 hm)
      rw [List.map_append, List.nodup_append]
      refine ⟨d.distinct, by simp, ?_⟩
      intro a ha b hb
      simp only [List.map_cons, List.map_nil, List.mem_singleton] at hb
      exact fun hab => hk (hb ▸ hab ▸ ha)⟩

/-- Entries set one after the other, so that the last value of a key stays. -/
def insertAll (d : Dictionary κ α) (es : List (κ × α)) : Dictionary κ α :=
  es.foldl (fun d e => d.insert e.1 e.2) d

/-! ## 2. Through the view -/

@[simp] theorem get?_empty (k : κ) : (empty : Dictionary κ α).get? k = none := rfl

theorem lookup_replace (k j : κ) (v : α) (es : List (κ × α)) (hk : k ∈ es.map Prod.fst) :
    (replace k v es).lookup j = if j = k then some v else es.lookup j := by
  induction es with
  | nil => simp at hk
  | cons e es ih =>
    obtain ⟨i, w⟩ := e
    by_cases hi : i = k
    · subst hi
      by_cases hj : j = i
      · simp [replace, hj]
      · simp [replace, List.lookup_cons, beq_eq_false_iff_ne.2 hj, hj]
    · have hk' : k ∈ es.map Prod.fst := by
        simpa [Ne.symm hi] using hk
      simp only [replace, hi, if_false, List.lookup_cons, ih hk']
      by_cases hj : j = i
      · subst hj
        simp [hi]
      · simp [beq_eq_false_iff_ne.2 hj]

theorem lookup_append_single (k j : κ) (v : α) (es : List (κ × α)) (hk : k ∉ es.map Prod.fst) :
    (es ++ [(k, v)]).lookup j = if j = k then some v else es.lookup j := by
  induction es with
  | nil =>
    by_cases h : j = k
    · simp [h]
    · simp [List.lookup_cons, beq_eq_false_iff_ne.2 h, h]
  | cons e es ih =>
    obtain ⟨i, w⟩ := e
    simp only [List.map_cons, List.mem_cons, not_or] at hk
    simp only [List.cons_append, List.lookup_cons, ih hk.2]
    by_cases hj : j = i
    · subst hj
      simp [Ne.symm hk.1]
    · simp [beq_eq_false_iff_ne.2 hj]

theorem get?_insert (d : Dictionary κ α) (k j : κ) (v : α) :
    (d.insert k v).get? j = if j = k then some v else d.get? j := by
  unfold insert
  split
  · next h => exact lookup_replace k j v _ ((lookup_isSome_iff k _).1 h)
  · next h =>
    exact lookup_append_single k j v _ fun hm => h ((lookup_isSome_iff k d.entries).2 hm)

/-- Because no key comes twice, an entry that goes uncovers no other one. -/
theorem lookup_filter (p : κ → α → Bool) (k : κ) (es : List (κ × α))
    (h : (es.map Prod.fst).Nodup) :
    (es.filter fun e => p e.1 e.2).lookup k = (es.lookup k).filter (p k) := by
  induction es with
  | nil => rfl
  | cons e es ih =>
    obtain ⟨i, w⟩ := e
    simp only [List.map_cons, List.nodup_cons] at h
    by_cases hk : k = i
    · subst hk
      have hn : es.lookup k = none := by
        rw [← Option.not_isSome_iff_eq_none, lookup_isSome_iff]
        exact h.1
      by_cases hp : p k w
      · simp [hp, Option.filter]
      · simp [hp, ih h.2, hn, Option.filter]
    · have hb : (k == i) = false := beq_eq_false_iff_ne.2 hk
      rw [List.lookup_cons, hb, ← ih h.2]
      by_cases hp : p i w
      · simp [hp, List.lookup_cons, hb]
      · simp [hp]

theorem get?_filter (d : Dictionary κ α) (p : κ → α → Bool) (k : κ) :
    (d.filter p).get? k = (d.get? k).filter (p k) :=
  lookup_filter p k d.entries d.distinct

/-- The size is seen through the view. -/
theorem size_congr {d d' : Dictionary κ α} (h : ∀ k, d.get? k = d'.get? k) :
    d.size = d'.size := by
  have hkeys : d.keys.Perm d'.keys := by
    refine (List.perm_ext_iff_of_nodup d.distinct d'.distinct).2 fun k => ?_
    have hk : (d.entries.lookup k).isSome = (d'.entries.lookup k).isSome :=
      congrArg Option.isSome (h k)
    rw [← lookup_isSome_iff, ← lookup_isSome_iff, hk]
  have hlength := hkeys.length_eq
  rw [keys, keys, List.length_map, List.length_map] at hlength
  exact hlength

theorem size_insert (d : Dictionary κ α) (k : κ) (v : α) :
    (d.insert k v).size = if d.contains k then d.size else d.size + 1 := by
  unfold insert size
  split
  · next h => simpa [h] using congrArg List.length (map_fst_replace k v d.entries)
  · next h => simp

end Dictionary

end Turnstile
