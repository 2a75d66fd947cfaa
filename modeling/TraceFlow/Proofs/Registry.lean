import Mathlib.Data.List.Dedup
import TraceFlow.Plugin
import TraceFlow.Proofs.LastWrite

/-!
# What is found under a name is what was put there last

A set of plugins answers for every name the plugin that was registered last under it, if it was not
taken away since; a plugin does so for the names of its classes. What was last is told from the
calls alone.
-/

namespace TraceFlow

/-! ## Items that replace each other by name -/

section

variable {ι : Type} {nameOf : ι → String} {items : List ι} {name : String} {item : ι}

/-- Items put together one by one: each replaces an earlier one of its name, and goes to the end. -/
def replacing (nameOf : ι → String) (items : List ι) : List ι :=
  items.foldl (fun kept item => kept.filter (nameOf · ≠ nameOf item) ++ [item]) []

theorem replacing_concat (nameOf : ι → String) (items : List ι) (item : ι) :
    replacing nameOf (items ++ [item]) =
      (replacing nameOf items).filter (nameOf · ≠ nameOf item) ++ [item] := by
  simp [replacing]

theorem find?_filter_ne (nameOf : ι → String) (items : List ι) (other name : String) :
    (items.filter (nameOf · ≠ other)).find? (nameOf · = name) =
      if other = name then none else items.find? (nameOf · = name) := by
  induction items with
  | nil => simp
  | cons first rest ih =>
    by_cases hother : nameOf first = other
    · rw [List.filter_cons_of_neg (by simp [hother]), ih]
      split
      · rfl
      · next hname =>
        rw [List.find?_cons_of_neg (by simp [hother, hname])]
    · rw [List.filter_cons_of_pos (by simp [hother])]
      by_cases hname : nameOf first = name
      · rw [List.find?_cons_of_pos (by simp [hname]), List.find?_cons_of_pos (by simp [hname]),
          if_neg (hname ▸ Ne.symm hother)]
      · rw [List.find?_cons_of_neg (by simp [hname]), List.find?_cons_of_neg (by simp [hname]), ih]

theorem find?_replacing_eq_some_iff :
    (replacing nameOf items).find? (nameOf · = name) = some item ↔
      IsLast (nameOf · = name) items item := by
  induction items using List.reverseRecOn with
  | nil => simp [replacing, IsLast.not_nil]
  | append_singleton items next ih =>
    rw [replacing_concat, List.find?_append, find?_filter_ne, IsLast.concat_iff, ← ih]
    by_cases hnext : nameOf next = name
    · simp [hnext, eq_comm]
    · simp [hnext]

theorem mem_replacing_iff :
    item ∈ replacing nameOf items ↔ IsLast (nameOf · = nameOf item) items item := by
  induction items using List.reverseRecOn with
  | nil => simp [replacing, IsLast.not_nil]
  | append_singleton items next ih =>
    rw [replacing_concat, IsLast.concat_iff, List.mem_append, List.mem_filter, ih,
      List.mem_singleton]
    by_cases hnext : nameOf item = nameOf next
    · simp [hnext]
    · have hitem : item ≠ next := fun hsame => hnext (congrArg nameOf hsame)
      simp [hnext, Ne.symm hnext, hitem]

theorem dedup_concat (names : List String) (name : String) :
    (names ++ [name]).dedup = names.dedup.filter (· ≠ name) ++ [name] := by
  induction names with
  | nil => simp
  | cons first rest ih =>
    by_cases hrest : first ∈ rest
    · have hmem : first ∈ rest ++ [name] := List.mem_append_left _ hrest
      rw [List.cons_append, List.dedup_cons_of_mem hmem, List.dedup_cons_of_mem hrest, ih]
    · rw [List.cons_append, List.dedup_cons_of_notMem hrest]
      by_cases hfirst : first = name
      · subst hfirst
        rw [List.dedup_cons_of_mem (by simp), ih]
        simp
      · rw [List.dedup_cons_of_notMem (by simp [hrest, hfirst]), ih]
        simp [hfirst]

theorem map_replacing : (replacing nameOf items).map nameOf = (items.map nameOf).dedup := by
  induction items using List.reverseRecOn with
  | nil => rfl
  | append_singleton items next ih =>
    rw [replacing_concat, List.map_append, List.map_append, List.map_singleton, dedup_concat, ← ih,
      List.filter_map]
    rfl

/-- Items that are kept, and found, by the names under which they were given. -/
structure Kept (nameOf : ι → String) (given kept : List ι) (find? : String → Option ι) : Prop where
  distinct : (kept.map nameOf).Nodup
  /-- A name has the place in which it was given last. -/
  order : kept.map nameOf = (given.map nameOf).dedup
  mem_iff : ∀ item, item ∈ kept ↔ IsLast (nameOf · = nameOf item) given item
  found : ∀ name item, find? name = some item ↔ IsLast (nameOf · = name) given item

theorem kept_replacing (nameOf : ι → String) (items : List ι) :
    Kept nameOf items (replacing nameOf items)
      (fun name => (replacing nameOf items).find? (nameOf · = name)) where
  distinct := by
    rw [map_replacing]
    exact List.nodup_dedup _
  order := map_replacing
  mem_iff _ := mem_replacing_iff
  found _ _ := find?_replacing_eq_some_iff

end

/-! ## The classes of a plugin -/

namespace Plugin

variable {W : Type}

/-- A call by which a plugin is put together. -/
inductive Part (W : Type) where
  | description (text : String)
  | source (cls : SourceClass W)
  | filter (cls : FilterClass W)

namespace Part

def addTo (plugin : Plugin W) : Part W → Plugin W
  | description text => plugin.describe text
  | source cls => plugin.addSource cls
  | filter cls => plugin.addFilter cls

def source? : Part W → Option (SourceClass W)
  | source cls => some cls
  | _ => none

def filter? : Part W → Option (FilterClass W)
  | filter cls => some cls
  | _ => none

end Part

def ofParts (name : String) (parts : List (Part W)) : Plugin W :=
  parts.foldl Part.addTo (named name)

theorem ofParts_concat (name : String) (parts : List (Part W)) (part : Part W) :
    ofParts name (parts ++ [part]) = part.addTo (ofParts name parts) := by
  simp [ofParts]

theorem kept_ofParts {ι : Type} {nameOf : ι → String} {item? : Part W → Option ι}
    (kept : Plugin W → List ι) (name : String) (parts : List (Part W))
    (hnone : kept (named name) = [])
    (hother : ∀ plugin part, item? part = none → kept (part.addTo plugin) = kept plugin)
    (hitem : ∀ plugin part item, item? part = some item →
      kept (part.addTo plugin) = (kept plugin).filter (nameOf · ≠ nameOf item) ++ [item]) :
    kept (ofParts name parts) = replacing nameOf (parts.filterMap item?) := by
  induction parts using List.reverseRecOn with
  | nil => exact hnone
  | append_singleton parts part ih =>
    rw [ofParts_concat, List.filterMap_append]
    rcases hpart : item? part with _ | item
    · rw [hother _ _ hpart, ih]
      simp [hpart]
    · rw [hitem _ _ _ hpart, ih, ← replacing_concat]
      simp [hpart]

theorem sources_ofParts (name : String) (parts : List (Part W)) :
    (ofParts name parts).sources = replacing SourceClass.name (parts.filterMap Part.source?) := by
  apply kept_ofParts Plugin.sources name parts rfl
  · rintro plugin (text | cls | cls) ⟨⟩ <;> rfl
  · rintro plugin (text | cls | cls) item ⟨⟩
    rfl

theorem filters_ofParts (name : String) (parts : List (Part W)) :
    (ofParts name parts).filters = replacing FilterClass.name (parts.filterMap Part.filter?) := by
  apply kept_ofParts Plugin.filters name parts rfl
  · rintro plugin (text | cls | cls) ⟨⟩ <;> rfl
  · rintro plugin (text | cls | cls) item ⟨⟩
    rfl

/-- The classes of each kind go by their own names. -/
structure MadeOf (parts : List (Part W)) (plugin : Plugin W) : Prop where
  sources : Kept SourceClass.name (parts.filterMap Part.source?) plugin.sources plugin.source?
  filters : Kept FilterClass.name (parts.filterMap Part.filter?) plugin.filters plugin.filter?

theorem madeOf_ofParts (name : String) (parts : List (Part W)) :
    MadeOf parts (ofParts name parts) where
  sources := by
    have hkept := kept_replacing SourceClass.name (parts.filterMap Part.source?)
    rw [← sources_ofParts name] at hkept
    exact hkept
  filters := by
    have hkept := kept_replacing FilterClass.name (parts.filterMap Part.filter?)
    rw [← filters_ofParts name] at hkept
    exact hkept

theorem sources_only (name : String) (parts : List (Part W)) :
    (ofParts name ((parts.filterMap Part.source?).map .source)).sources =
      (ofParts name parts).sources := by
  rw [sources_ofParts, sources_ofParts, List.filterMap_map]
  exact congrArg _ (List.filterMap_some)

theorem filters_only (name : String) (parts : List (Part W)) :
    (ofParts name ((parts.filterMap Part.filter?).map .filter)).filters =
      (ofParts name parts).filters := by
  rw [filters_ofParts, filters_ofParts, List.filterMap_map]
  exact congrArg _ (List.filterMap_some)

end Plugin

/-! ## A set of plugins -/

namespace PluginSet

variable {W : Type}

inductive Request (W : Type) where
  | register (plugin : Plugin W)
  | unregister (name : String)
  | clear
  | find (name : String)
  | names

inductive Answer (W : Type) where
  | done
  | plugin (found : Option (Plugin W))
  | names (names : List String)

namespace Request

def on (set : PluginSet W) : Request W → Answer W × PluginSet W
  | register plugin => (.plugin (set.register plugin).1, (set.register plugin).2)
  | unregister name => (.plugin (set.unregister name).1, (set.unregister name).2)
  | clear => (.done, set.clear)
  | find name => (.plugin (set.find? name), set)
  | names => (.names set.names, set)

def name? : Request W → Option String
  | register plugin => some plugin.name
  | unregister name => some name
  | find name => some name
  | clear => none
  | names => none

/-- After the call it does not matter any more what was under the name before. -/
def Settles (name : String) : Request W → Prop
  | register plugin => plugin.name = name
  | unregister other => other = name
  | clear => True
  | find _ => False
  | names => False

end Request

def after (history : List (Request W)) : PluginSet W :=
  history.foldl (fun set request => (request.on set).2) empty

theorem after_concat (history : List (Request W)) (request : Request W) :
    after (history ++ [request]) = (request.on (after history)).2 := by
  simp [after]

/-! ### What is found -/

theorem find?_unregister (set : PluginSet W) (other name : String) :
    (set.unregister other).2.find? name = if other = name then none else set.find? name := by
  show Assoc.lookup name (set.entries.filter (·.1 ≠ other)) =
    if other = name then none else Assoc.lookup name set.entries
  rw [Assoc.lookup_eq_find?, Assoc.lookup_eq_find?, find?_filter_ne]
  split <;> rfl

theorem find?_on_of_ne {request : Request W} {name other : String}
    (hname : request.name? = some name) (hne : other ≠ name) (set : PluginSet W) :
    (request.on set).2.find? other = set.find? other := by
  cases request with
  | register plugin =>
    cases hname
    exact find?_register_of_ne set hne
  | unregister first =>
    cases hname
    exact (find?_unregister set name other).trans (if_neg (Ne.symm hne))
  | find first => rfl
  | clear | names => cases hname

/-- What is found under a name was registered by the last call that settled it. -/
theorem find?_after_eq_some_iff (history : List (Request W)) (name : String) (plugin : Plugin W) :
    (after history).find? name = some plugin ↔
      IsLast (Request.Settles name) history (.register plugin) := by
  induction history using List.reverseRecOn with
  | nil => simp [after, empty, find?, Assoc.lookup, IsLast.not_nil]
  | append_singleton history request ih =>
    rw [after_concat, IsLast.concat_iff, ← ih]
    cases request with
    | register newer =>
      by_cases hname : newer.name = name
      · subst hname
        have hfound : (Request.on (after history) (.register newer)).2.find? newer.name =
            some newer := find?_register_self _ newer
        rw [hfound]
        simp [Request.Settles, eq_comm]
      · have hnewer : (Request.register newer).name? = some newer.name := rfl
        rw [find?_on_of_ne hnewer (Ne.symm hname)]
        simp [Request.Settles, hname]
    | unregister other =>
      have hfound : (Request.on (after history) (.unregister other)).2.find? name = _ :=
        find?_unregister (after history) other name
      rw [hfound]
      by_cases hname : other = name
      · simp [Request.Settles, hname]
      · simp [Request.Settles, hname]
    | clear => simp [Request.on, Request.Settles, PluginSet.clear, empty, find?, Assoc.lookup]
    | find other => simp [Request.on, Request.Settles]
    | names => simp [Request.on, Request.Settles]

theorem mem_names_iff (set : PluginSet W) (name : String) :
    name ∈ set.names ↔ ∃ plugin, set.find? name = some plugin := by
  unfold names find?
  rw [Assoc.lookup_eq_find?]
  constructor
  · intro hname
    obtain ⟨entry, hentry, rfl⟩ := List.mem_map.mp hname
    have hsome : (set.entries.find? (·.1 = entry.1)).isSome := by
      rw [List.find?_isSome]
      exact ⟨entry, hentry, by simp⟩
    obtain ⟨found, hfound⟩ := Option.isSome_iff_exists.mp hsome
    exact ⟨found.2, by rw [hfound]; rfl⟩
  · rintro ⟨plugin, hplugin⟩
    obtain ⟨entry, hentry, rfl⟩ := Option.map_eq_some_iff.mp hplugin
    have hname : entry.1 = name := by simpa using List.find?_some hentry
    exact List.mem_map.mpr ⟨entry, List.mem_of_find?_eq_some hentry, hname⟩

/-! ### The order of the names -/

theorem nameBytes_injective {first second : String} (h : nameBytes first = nameBytes second) :
    first = second := by
  have hbytes : first.toUTF8 = second.toUTF8 := ByteArray.ext (Array.toList_inj.mp h)
  exact String.toByteArray_inj.mp hbytes

theorem Precedes.trans {first second third : String} (h : Precedes first second)
    (hnext : Precedes second third) : Precedes first third :=
  List.lt_trans h hnext

theorem precedes_of_not {first second : String} (hne : first ≠ second)
    (h : ¬ Precedes first second) : Precedes second first := by
  rcases Std.lt_trichotomy (nameBytes first) (nameBytes second) with hlt | heq | hgt
  · exact absurd hlt h
  · exact absurd (nameBytes_injective heq) hne
  · exact hgt

theorem ascending_putBefore {name : String} {plugin : Plugin W} {entries : List (String × Plugin W)}
    (h : (entries.map Prod.fst).Pairwise Precedes) :
    ((Assoc.putBefore (Precedes name ·) name plugin entries).map Prod.fst).Pairwise
      Precedes := by
  induction entries with
  | nil => simp [Assoc.putBefore]
  | cons entry rest ih =>
    obtain ⟨first, kept⟩ := entry
    rw [List.map_cons, List.pairwise_cons] at h
    rw [Assoc.putBefore]
    split
    · next hsame =>
      subst hsame
      exact List.pairwise_cons.mpr h
    · next hne =>
      split
      · next hbefore =>
        replace hbefore : Precedes name first := of_decide_eq_true hbefore
        refine List.pairwise_cons.mpr ⟨?_, List.pairwise_cons.mpr h⟩
        intro other hother
        rcases List.mem_cons.mp hother with rfl | hrest
        · exact hbefore
        · exact Precedes.trans hbefore (h.1 other hrest)
      · next hnot =>
        refine List.pairwise_cons.mpr ⟨?_, ih h.2⟩
        intro other hother
        rcases Assoc.eq_or_mem_of_mem_putBefore hother with rfl | hrest
        · exact precedes_of_not (Ne.symm hne) fun hbefore => hnot (decide_eq_true hbefore)
        · exact h.1 other hrest

theorem ascending_on {set : PluginSet W} (h : set.names.Pairwise Precedes) (request : Request W) :
    (request.on set).2.names.Pairwise Precedes := by
  cases request with
  | register plugin => exact ascending_putBefore h
  | unregister name =>
    have hfiltered : ((set.entries.filter (·.1 ≠ name)).map Prod.fst).Sublist set.names :=
      List.filter_sublist.map _
    exact h.sublist hfiltered
  | clear => exact List.Pairwise.nil
  | find | names => exact h

theorem ascending_after (history : List (Request W)) : (after history).names.Pairwise Precedes := by
  induction history using List.reverseRecOn with
  | nil => exact List.Pairwise.nil
  | append_singleton history request ih =>
    rw [after_concat]
    exact ascending_on ih request

/-! ### What is answered -/

/-- A set answers by the calls that were made on it. -/
structure AnswersFor (history : List (Request W)) (set : PluginSet W) : Prop where
  found : ∀ name plugin, set.find? name = some plugin ↔
    IsLast (Request.Settles name) history (.register plugin)
  listed : ∀ name, name ∈ set.names ↔ ∃ plugin, set.find? name = some plugin
  ascending : set.names.Pairwise Precedes
  /-- Whatever else it does, a call about a name answers what was found under it before. -/
  answered : ∀ (request : Request W) name, request.name? = some name →
    (request.on set).1 = .plugin (set.find? name)
  untouched : ∀ (request : Request W) name other, request.name? = some name → other ≠ name →
    (request.on set).2.find? other = set.find? other

theorem answersFor_after (history : List (Request W)) : AnswersFor history (after history) where
  found := find?_after_eq_some_iff history
  listed := mem_names_iff (after history)
  ascending := ascending_after history
  answered request name hname := by
    cases request <;> cases hname <;> rfl
  untouched _ _ _ hname hne := find?_on_of_ne hname hne (after history)

/--
Under every name the plugin is found that was registered last under it, unless the name was
unregistered or the set cleared since, and by their bytes the names of these plugins are listed in
ascending order. In a plugin the classes of a kind stand in the order in which their names were
given last, and the class that was given last under a name is found under it; classes of the other
kind do not matter.
-/
theorem last_registration_counts :
    (∀ history : List (Request W), AnswersFor history (after history)) ∧
    ∀ name (parts : List (Plugin.Part W)),
      Plugin.MadeOf parts (Plugin.ofParts name parts) ∧
      (Plugin.ofParts name ((parts.filterMap Plugin.Part.source?).map .source)).sources =
        (Plugin.ofParts name parts).sources ∧
      (Plugin.ofParts name ((parts.filterMap Plugin.Part.filter?).map .filter)).filters =
        (Plugin.ofParts name parts).filters :=
  ⟨answersFor_after, fun name parts => ⟨Plugin.madeOf_ofParts name parts,
    Plugin.sources_only name parts, Plugin.filters_only name parts⟩⟩

def renewal : List (Request Unit) :=
  [.register ((Plugin.named "utils").describe "old"), .register (.named "ctf"), .unregister "ctf",
    .register ((Plugin.named "utils").describe "new"), .find "ctf"]

theorem last_registration_counts_renewal :
    (after renewal).find? "utils" = some ((Plugin.named "utils").describe "new") ∧
      ((Request.unregister (W := Unit) "utils").name? = some "utils" ∧
        (Request.on (after renewal) (.unregister "utils")).1 =
          .plugin (some ((Plugin.named "utils").describe "new"))) ∧
      "ctf" ≠ "utils" ∧
      (Request.on (after renewal) (.unregister "utils")).2.find? "ctf" = none := by
  obtain ⟨hall, -⟩ := last_registration_counts (W := Unit)
  have hset := hall renewal
  have hlast : IsLast (Request.Settles "utils") renewal
      (.register ((Plugin.named "utils").describe "new")) :=
    ⟨renewal.take 3, [.find "ctf"], rfl, rfl, by simp [Request.Settles]⟩
  have hfound := (hset.found _ _).mpr hlast
  have hname : (Request.unregister (W := Unit) "utils").name? = some "utils" := rfl
  have hanswer := hset.answered _ _ hname
  have hothers := hset.untouched _ _ "ctf" hname (by decide)
  rw [hfound] at hanswer
  exact ⟨hfound, ⟨hname, hanswer⟩, by decide, hothers⟩

end PluginSet

end TraceFlow
