import Mathlib.Data.Finset.Card
import TraceFlow.Value

/-!
# The last write counts

A map that is filled entry by entry holds under every key the value that came last, in the place
that the key took when it came first. Which value came last is told from the entries alone.
-/

namespace TraceFlow

/-! ## The last item of a kind -/

def IsLast {ι : Type} (applies : ι → Prop) (items : List ι) (item : ι) : Prop :=
  ∃ before after, items = before ++ item :: after ∧ applies item ∧
    ∀ later ∈ after, ¬ applies later

namespace IsLast

variable {ι : Type} {applies : ι → Prop} {items : List ι} {item next : ι}

theorem not_nil : ¬ IsLast applies [] item := by
  rintro ⟨before, after, heq, -⟩
  simp at heq

theorem concat_iff :
    IsLast applies (items ++ [next]) item ↔
      applies next ∧ item = next ∨ ¬ applies next ∧ IsLast applies items item := by
  constructor
  · rintro ⟨before, after, heq, hitem, hafter⟩
    rcases List.eq_nil_or_concat after with rfl | ⟨after, last, rfl⟩
    · obtain ⟨-, hnext⟩ := List.append_inj' heq rfl
      simp only [List.cons.injEq, and_true] at hnext
      subst hnext
      exact .inl ⟨hitem, rfl⟩
    · rw [List.concat_eq_append, ← List.cons_append, ← List.append_assoc] at heq
      obtain ⟨hitems, hnext⟩ := List.append_inj' heq rfl
      simp only [List.cons.injEq, and_true] at hnext
      subst hnext
      refine .inr ⟨hafter _ (by simp), before, after, hitems, hitem, ?_⟩
      intro later hlater
      exact hafter later (by simp [hlater])
  · rintro (⟨hnext, rfl⟩ | ⟨hnext, before, after, rfl, hitem, hafter⟩)
    · exact ⟨items, [], rfl, hnext, by simp⟩
    · refine ⟨before, after ++ [next], by simp, hitem, ?_⟩
      intro later hlater
      rcases List.mem_append.mp hlater with hold | hnew
      · exact hafter later hold
      · rw [List.mem_singleton.mp hnew]
        exact hnext

end IsLast

/-! ## Maps filled entry by entry -/

namespace OrderedMap

variable {α : Type}

theorem ofList_concat (calls : List (String × α)) (key : String) (value : α) :
    ofList (calls ++ [(key, value)]) = (ofList calls).insert key value := by
  simp [ofList]

theorem eraseDups_concat (keys : List String) (key : String) :
    (keys ++ [key]).eraseDups = if key ∈ keys then keys.eraseDups else keys.eraseDups ++ [key] := by
  rw [List.eraseDups_append]
  split
  · next hkey => simp [List.removeAll, hkey]
  · next hkey => simp [List.removeAll, hkey, List.eraseDups_cons]

theorem keys_ofList (calls : List (String × α)) :
    (ofList calls).keys = (calls.map Prod.fst).eraseDups := by
  induction calls using List.reverseRecOn with
  | nil => rfl
  | append_singleton calls call ih =>
    obtain ⟨key, value⟩ := call
    rw [ofList_concat, keys_insert, List.map_append, List.map_singleton, eraseDups_concat, ih]
    simp only [List.mem_eraseDups]

theorem nodup_keys_insert {m : OrderedMap α} (h : m.keys.Nodup) (key : String) (value : α) :
    (m.insert key value).keys.Nodup := by
  rw [keys_insert]
  split
  · exact h
  · next hkey =>
    rw [List.nodup_append]
    refine ⟨h, by simp, ?_⟩
    intro first hfirst second hsecond hsame
    rw [List.mem_singleton.mp hsecond] at hsame
    exact hkey (hsame ▸ hfirst)

theorem nodup_keys_ofList (calls : List (String × α)) : (ofList calls).keys.Nodup := by
  induction calls using List.reverseRecOn with
  | nil => exact List.nodup_nil
  | append_singleton calls call ih =>
    obtain ⟨key, value⟩ := call
    rw [ofList_concat]
    exact nodup_keys_insert ih key value

theorem get?_ofList_eq_some_iff (calls : List (String × α)) (key : String) (value : α) :
    (ofList calls).get? key = some value ↔ IsLast (·.1 = key) calls (key, value) := by
  induction calls using List.reverseRecOn with
  | nil => simp [ofList, IsLast.not_nil]
  | append_singleton calls call ih =>
    obtain ⟨other, last⟩ := call
    rw [ofList_concat]
    by_cases hkey : other = key
    · subst hkey
      rw [get?_insert_self, IsLast.concat_iff]
      simp [eq_comm]
    · rw [get?_insert_of_ne _ (Ne.symm hkey), IsLast.concat_iff, ih]
      simp [hkey]

/-- What a map holds is just what was inserted into it. -/
structure Records (calls : List (String × α)) (m : OrderedMap α) : Prop where
  distinct : m.keys.Nodup
  /-- The entries stand in the order in which their keys were first inserted. -/
  order : m.toList.map Prod.fst = (calls.map Prod.fst).eraseDups
  entries : ∀ key value, (key, value) ∈ m.toList ↔ IsLast (·.1 = key) calls (key, value)
  found : ∀ key value, m.get? key = some value ↔ IsLast (·.1 = key) calls (key, value)
  missing : ∀ key, m.get? key = none ↔ key ∉ calls.map Prod.fst
  size : m.size = (calls.map Prod.fst).toFinset.card

theorem records_ofList (calls : List (String × α)) : Records calls (ofList calls) where
  distinct := nodup_keys_ofList calls
  order := keys_ofList calls
  entries key value :=
    (Assoc.mem_iff_lookup_eq_some (nodup_keys_ofList calls)).trans
      (get?_ofList_eq_some_iff calls key value)
  found := get?_ofList_eq_some_iff calls
  missing key := by
    have hkeys : key ∉ (ofList calls).keys ↔ key ∉ calls.map Prod.fst := by
      rw [keys_ofList, List.mem_eraseDups]
    exact Assoc.lookup_eq_none_iff.trans hkeys
  size := by
    have hlength : (ofList calls).size = (ofList calls).keys.length := by simp [size, keys]
    rw [hlength, ← List.toFinset_card_of_nodup (nodup_keys_ofList calls)]
    congr 1
    ext key
    rw [List.mem_toFinset, List.mem_toFinset, keys_ofList, List.mem_eraseDups]

/--
Whatever is inserted into an empty map, one after the other, each key is listed once, where it came
first, with the value that came last under it, which is also the one that is found under the key;
nothing is found under any other key. Two insertions under different keys that are already there can
change places.
-/
theorem insertion_ordered (calls : List (String × α)) :
    Records calls (ofList calls) ∧
    ∀ key other, key ≠ other → key ∈ (ofList calls).keys → other ∈ (ofList calls).keys →
      ∀ value last, ((ofList calls).insert key value).insert other last =
        ((ofList calls).insert other last).insert key value := by
  refine ⟨records_ofList calls, ?_⟩
  intro key other hne hkey hother value last
  exact congrArg OrderedMap.mk (Assoc.put_comm hne hkey hother value last)

def repeated : List (String × Value) := [("b", .int 1), ("a", .string "x"), ("b", .int 2)]

theorem insertion_ordered_repeated :
    ("b" ≠ "a" ∧ "b" ∈ (ofList repeated).keys ∧ "a" ∈ (ofList repeated).keys) ∧
      ((ofList repeated).insert "b" .null).insert "a" (.bool true) =
        ((ofList repeated).insert "a" (.bool true)).insert "b" .null ∧
      (ofList repeated).toList.map Prod.fst = ["b", "a"] ∧
      (ofList repeated).get? "b" = some (.int 2) ∧ (ofList repeated).get? "c" = none := by
  obtain ⟨hrecords, hcomm⟩ := insertion_ordered repeated
  have hne : "b" ≠ "a" := by decide
  have hb : "b" ∈ (ofList repeated).keys := by decide
  have ha : "a" ∈ (ofList repeated).keys := by decide
  have hlast : IsLast (·.1 = "b") repeated ("b", .int 2) :=
    ⟨[("b", .int 1), ("a", .string "x")], [], rfl, rfl, by simp⟩
  refine ⟨⟨hne, hb, ha⟩, hcomm "b" "a" hne hb ha _ _, ?_, (hrecords.found _ _).mpr hlast,
    (hrecords.missing "c").mpr (by decide)⟩
  rw [hrecords.order]
  decide

end OrderedMap

end TraceFlow
