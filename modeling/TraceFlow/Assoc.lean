/-!
# Association lists

Values under names, one after the other in a list. Of several values under one name the first
counts.
-/

namespace TraceFlow.Assoc

variable {α : Type}

/-- The value under the first entry of that name. -/
def lookup (key : String) : List (String × α) → Option α
  | [] => none
  | (k, v) :: rest => if k = key then some v else lookup key rest

/--
Puts a value under a name. It takes the place of the value that it finds there; else it goes before
the first name that is to come later.
-/
def putBefore (later : String → Bool) (key : String) (value : α) :
    List (String × α) → List (String × α)
  | [] => [(key, value)]
  | (k, v) :: rest =>
    if k = key then (key, value) :: rest
    else if later k then (key, value) :: (k, v) :: rest
    else (k, v) :: putBefore later key value rest

/-- Puts a value under a name: in place when the name is there, at the end when it is new. -/
def put (key : String) (value : α) (entries : List (String × α)) : List (String × α) :=
  putBefore (fun _ => false) key value entries

/-! ## Lemmas -/

variable {key other : String} {entries : List (String × α)}

theorem lookup_eq_find? (key : String) (entries : List (String × α)) :
    lookup key entries = (entries.find? (·.1 = key)).map Prod.snd := by
  induction entries with
  | nil => rfl
  | cons entry rest ih =>
    by_cases hkey : entry.1 = key
    · simp [lookup, hkey]
    · simp [lookup, hkey, ih]

theorem lookup_append (key : String) (entries more : List (String × α)) :
    lookup key (entries ++ more) = (lookup key entries).or (lookup key more) := by
  induction entries with
  | nil => rfl
  | cons entry rest ih =>
    by_cases hkey : entry.1 = key
    · simp [lookup, hkey]
    · simp [lookup, hkey, ih]

theorem lookup_eq_none_iff : lookup key entries = none ↔ key ∉ entries.map Prod.fst := by
  induction entries with
  | nil => simp [lookup]
  | cons entry rest ih =>
    by_cases hkey : entry.1 = key
    · simp [lookup, hkey]
    · simp [lookup, hkey, ih, Ne.symm hkey]

/-- If no name stands twice, the first entry of a name is the only one. -/
theorem mem_iff_lookup_eq_some (h : (entries.map Prod.fst).Nodup) {value : α} :
    (key, value) ∈ entries ↔ lookup key entries = some value := by
  induction entries with
  | nil => simp [lookup]
  | cons entry rest ih =>
    obtain ⟨other, first⟩ := entry
    rw [List.map_cons, List.nodup_cons] at h
    rw [List.mem_cons, ih h.2]
    by_cases hkey : other = key
    · subst hkey
      have hrest : lookup other rest = none := lookup_eq_none_iff.mpr h.1
      simp [lookup, hrest, eq_comm]
    · simp [lookup, hkey, Ne.symm hkey]

theorem lookup_putBefore_self (later : String → Bool) (key : String) (value : α)
    (entries : List (String × α)) :
    lookup key (putBefore later key value entries) = some value := by
  induction entries with
  | nil => simp [putBefore, lookup]
  | cons entry rest ih =>
    rw [putBefore]
    split
    · simp [lookup]
    · split <;> simp_all [lookup]

theorem lookup_putBefore_of_ne (later : String → Bool) (h : other ≠ key) (value : α)
    (entries : List (String × α)) :
    lookup other (putBefore later key value entries) = lookup other entries := by
  induction entries with
  | nil => simp [putBefore, lookup, h.symm]
  | cons entry rest ih =>
    rw [putBefore]
    split
    · simp_all [lookup, h.symm]
    · split <;> simp_all [lookup, h.symm]

theorem eq_or_mem_of_mem_putBefore {later : String → Bool} {value : α}
    (h : other ∈ (putBefore later key value entries).map Prod.fst) :
    other = key ∨ other ∈ entries.map Prod.fst := by
  induction entries with
  | nil => simpa [putBefore] using h
  | cons entry rest ih =>
    rw [putBefore] at h
    split at h
    · next hsame => simpa [hsame] using h
    · split at h
      · simpa using h
      · rcases List.mem_cons.mp h with rfl | hrest
        · exact .inr (by simp)
        · exact (ih hrest).imp_right (List.mem_cons_of_mem _)

theorem lookup_put_self (key : String) (value : α) (entries : List (String × α)) :
    lookup key (put key value entries) = some value :=
  lookup_putBefore_self _ key value entries

theorem lookup_put_of_ne (h : other ≠ key) (value : α) (entries : List (String × α)) :
    lookup other (put key value entries) = lookup other entries :=
  lookup_putBefore_of_ne _ h value entries

theorem put_cons (key : String) (value : α) (entry : String × α) (rest : List (String × α)) :
    put key value (entry :: rest) =
      if entry.1 = key then (key, value) :: rest else entry :: put key value rest := rfl

theorem map_fst_put (key : String) (value : α) (entries : List (String × α)) :
    (put key value entries).map Prod.fst =
      if key ∈ entries.map Prod.fst then entries.map Prod.fst
      else entries.map Prod.fst ++ [key] := by
  induction entries with
  | nil => rfl
  | cons entry rest ih =>
    rw [put_cons]
    by_cases hkey : entry.1 = key
    · simp [hkey]
    · by_cases hrest : key ∈ rest.map Prod.fst <;> simp_all [Ne.symm hkey]

/-- A name that is there keeps its place, so two of them do not get in each other's way. -/
theorem put_comm (hne : key ≠ other) (hkey : key ∈ entries.map Prod.fst)
    (hother : other ∈ entries.map Prod.fst) (value last : α) :
    put other last (put key value entries) = put key value (put other last entries) := by
  induction entries with
  | nil => simp at hkey
  | cons entry rest ih =>
    by_cases hfirst : entry.1 = key
    · subst hfirst
      simp [put_cons, hne]
    · by_cases hsecond : entry.1 = other
      · subst hsecond
        simp [put_cons, hfirst]
      · have hrest := ih (by simpa [Ne.symm hfirst] using hkey)
          (by simpa [Ne.symm hsecond] using hother)
        simp [put_cons, hfirst, hsecond, hrest]

end TraceFlow.Assoc
