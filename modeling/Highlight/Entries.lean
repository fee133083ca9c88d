/-
Maps as lists of keys and values. The keys keep the order in which they
were first put in; putting a value for a key that is there replaces the
value and leaves the key in its place.
-/

namespace Highlight

/-- Keys with their values, in order; a key occurs once. -/
abbrev Entries (κ β : Type) := List (κ × β)

namespace Entries

variable {κ β : Type} [BEq κ] [LawfulBEq κ]

/-- The map with the value of a key replaced or added at the end. -/
def put (k : κ) (v : β) : Entries κ β → Entries κ β
  | [] => [(k, v)]
  | (j, w) :: more =>
    if j == k then (k, v) :: more else (j, w) :: put k v more

/-- The map with all entries of another one put in. -/
def putAll (es : Entries κ β) (more : Entries κ β) : Entries κ β :=
  more.foldl (fun es (k, v) => put k v es) es

def erase (k : κ) (es : Entries κ β) : Entries κ β :=
  es.filter fun e => !(e.1 == k)

def keys (es : Entries κ β) : List κ := es.map Prod.fst

@[simp] theorem lookup_put_self (k : κ) (v : β) (es : Entries κ β) :
    (put k v es).lookup k = some v := by
  induction es with
  | nil => simp [put]
  | cons e es ih =>
    obtain ⟨j, w⟩ := e
    unfold put
    split
    · simp
    · next h =>
      have : (k == j) = false :=
        beq_false_of_ne fun e => h (by simp [e])
      simp [List.lookup_cons, this, ih]

theorem lookup_put_of_ne {k j : κ} (v : β) (es : Entries κ β)
    (h : j ≠ k) : (put k v es).lookup j = es.lookup j := by
  induction es with
  | nil => simp [put, List.lookup_cons, beq_false_of_ne h]
  | cons e es ih =>
    obtain ⟨i, w⟩ := e
    unfold put
    split
    · next hi =>
      have hi : i = k := by simpa using hi
      simp [List.lookup_cons, hi, beq_false_of_ne h]
    · simp [List.lookup_cons, ih]

/-- Putting adds a key at the end or changes no key at all. -/
theorem keys_put (k : κ) (v : β) (es : Entries κ β) :
    keys (put k v es) =
      if k ∈ keys es then keys es else keys es ++ [k] := by
  induction es with
  | nil => simp [put, keys]
  | cons e es ih =>
    obtain ⟨j, w⟩ := e
    unfold put
    split
    · next h =>
      have h : j = k := by simpa using h
      simp [keys, h]
    · next h =>
      have h : j ≠ k := by simpa using h
      simp only [keys, List.map_cons, List.mem_cons] at ih ⊢
      rw [ih]
      by_cases hk : k ∈ es.map Prod.fst <;> simp [hk, h.symm]

/-- A key finds the value of some entry. -/
theorem exists_lookup_of_mem_keys {k : κ} {es : Entries κ β}
    (h : k ∈ keys es) : ∃ v, es.lookup k = some v ∧ (k, v) ∈ es := by
  induction es with
  | nil => cases h
  | cons e es ih =>
    obtain ⟨j, w⟩ := e
    rw [List.lookup_cons]
    by_cases hj : k = j
    · subst hj
      rw [beq_self_eq_true]
      exact ⟨w, rfl, List.mem_cons_self⟩
    · rw [beq_false_of_ne hj]
      obtain ⟨v, hv, hmem⟩ := ih ((List.mem_cons.1 h).resolve_left hj)
      exact ⟨v, hv, List.mem_cons_of_mem _ hmem⟩

end Entries

end Highlight
