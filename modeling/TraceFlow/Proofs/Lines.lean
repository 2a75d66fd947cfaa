import TraceFlow.Proofs.Quoting

/-!
# Documents of texts, line by line

The plain format reads a document of texts as what it means: every line is one expression, and every
expression adds one text to the table. What it writes is such a document.
-/

namespace TraceFlow.Toml

/-! ## Reading a line -/

theorem ne_of_isBareChar {c : Char} (h : isBareChar c) :
    isWs c = false ∧ c ≠ '#' ∧ c ≠ '[' ∧ c ≠ '"' ∧ c ≠ '\'' ∧ c ≠ '\n' ∧ c ≠ '\r' ∧
      c ≠ '\uFEFF' := by
  refine ⟨?_, ?_, ?_, ?_, ?_, ?_, ?_, ?_⟩
  case refine_1 =>
    rw [← Bool.not_eq_true]
    intro hblank
    rcases isWs_iff.mp hblank with rfl | rfl <;> cases h
  all_goals
    rintro rfl
    cases h

theorem IsBare.exists_cons {key : String} (h : IsBare key) :
    ∃ c others, key.toList = c :: others ∧ isBareChar c := by
  obtain ⟨c, others, hcs⟩ := List.exists_cons_of_ne_nil h.1
  exact ⟨c, others, hcs, h.2 c (by rw [hcs]; exact List.mem_cons_self)⟩

theorem skipWs_of_bare {c : Char} (h : isBareChar c) (rest : List Char) :
    skipWs (c :: rest) = c :: rest := by
  unfold skipWs
  rw [List.dropWhile_cons, (ne_of_isBareChar h).1]
  rfl

theorem readKey_of_bare {key : String} (h : IsBare key) (more : List Char) :
    readKey (key.toList ++ ' ' :: '=' :: more) = some (([], key), '=' :: more) := by
  obtain ⟨c, others, hcs, hc⟩ := h.exists_cons
  obtain ⟨-, -, -, hdouble, hsingle, -⟩ := ne_of_isBareChar hc
  have hpart : readKeyPart (key.toList ++ ' ' :: '=' :: more) = some (key, ' ' :: '=' :: more) := by
    have hname : (key.toList ++ ' ' :: '=' :: more).takeWhile isBareChar = key.toList := by
      rw [List.takeWhile_append_of_pos h.2]
      exact List.append_nil _
    have hrest : (key.toList ++ ' ' :: '=' :: more).dropWhile isBareChar = ' ' :: '=' :: more :=
      List.dropWhile_append_of_pos h.2
    rw [readKeyPart]
    · rw [hname, hrest, hcs, List.isEmpty_cons, ← hcs, String.ofList_toList]
      rfl
    · rw [hcs]
      exact fun _ hsame => hdouble (List.cons.inj hsame).1
    · rw [hcs]
      exact fun _ hsame => hsingle (List.cons.inj hsame).1
  have hstart : skipWs (key.toList ++ ' ' :: '=' :: more) = key.toList ++ ' ' :: '=' :: more := by
    rw [hcs]
    exact skipWs_of_bare hc _
  unfold readKey depthLimit
  rw [readKeyParts, hstart, hpart]
  rfl

theorem Spells.head {spelling text : List Char} (h : Spells spelling text) :
    ∃ more, spelling = '"' :: more ∨ spelling = '\'' :: more := by
  cases h with
  | basic | basicLines => exact ⟨_, .inl rfl⟩
  | literal | literalLines => exact ⟨_, .inr rfl⟩

theorem readValue_of_spells {spelling text : List Char} (h : Spells spelling text) (depth : Nat)
    (rest : List Char) :
    readValue depth (skipWs (' ' :: (spelling ++ '\n' :: rest))) =
      some (.text (String.ofList text), '\n' :: rest) := by
  have hread : readText (spelling ++ '\n' :: rest) = _ := h.read nofun nofun
  obtain ⟨more, rfl | rfl⟩ := h.head
  · have hstart : skipWs (' ' :: ('"' :: more ++ '\n' :: rest)) = '"' :: more ++ '\n' :: rest := rfl
    rw [hstart, List.cons_append, readValue, ← List.cons_append, hread]
    rfl
  · have hstart : skipWs (' ' :: ('\'' :: more ++ '\n' :: rest)) = '\'' :: more ++ '\n' :: rest :=
      rfl
    rw [hstart, List.cons_append, readValue, ← List.cons_append, hread]
    rfl

section

variable {key text : String} {spelling rest document : List Char} {texts : List (String × String)}

theorem readExpression_line (hkey : IsBare key) (htext : Spells spelling text.toList)
    (rest : List Char) :
    readExpression (key.toList ++ ' ' :: '=' :: ' ' :: (spelling ++ '\n' :: rest)) =
      some (.pair ([], key) (.text text), rest) := by
  obtain ⟨c, others, hcs, hc⟩ := hkey.exists_cons
  have hbracket := (ne_of_isBareChar hc).2.2.1
  have hpair : readPair (readValue depthLimit)
      (key.toList ++ ' ' :: '=' :: ' ' :: (spelling ++ '\n' :: rest)) =
        some ((([], key), .text text), '\n' :: rest) := by
    unfold readPair
    rw [readKey_of_bare hkey]
    simp only [Option.bind_eq_bind, Option.bind_some, skipChar, if_true, readValue_of_spells htext,
      String.ofList_toList]
    rfl
  rw [readExpression, hpair]
  · rfl
  · rw [hcs]
    exact fun _ hsame => hbracket (List.cons.inj hsame).1
  · rw [hcs]
    exact fun _ hsame => hbracket (List.cons.inj hsame).1

/-! ## Reading all lines -/

theorem skipLineEnd_of_bare {c : Char} (h : isBareChar c) (rest : List Char) :
    skipLineEnd (c :: rest) = none := by
  obtain ⟨-, hcomment, -, -, -, hline, hreturn, -⟩ := ne_of_isBareChar h
  have hkept : skipComment (c :: rest) = c :: rest := by
    rw [skipComment]
    exact fun _ hsame => hcomment (List.cons.inj hsame).1
  unfold skipLineEnd
  rw [skipWs_of_bare h, hkept]
  split
  · next hsame => cases hsame
  · next hsame => exact absurd (List.cons.inj hsame).1 hline
  · next hsame => exact absurd (List.cons.inj hsame).1 hreturn
  · rfl

def expressionsOf (texts : List (String × String)) : List Expression :=
  texts.map fun (key, text) => .pair ([], key) (.text text)

theorem readExpressions_spelled (h : Spelled texts document) {limit : Nat}
    (hlimit : document.length < limit) :
    readExpressions limit document = some (expressionsOf texts) := by
  induction h generalizing limit with
  | nil =>
    obtain ⟨limit, rfl⟩ := Nat.exists_eq_add_one.mpr hlimit
    rfl
  | @cons key text spelling document texts hkey htext _ ih =>
    obtain ⟨limit, rfl⟩ := Nat.exists_eq_add_one.mpr (Nat.zero_lt_of_lt hlimit)
    have hread := readExpression_line hkey htext document
    have hothers : readExpressions limit document = some (expressionsOf texts) := by
      refine ih ?_
      simp only [List.length_append, List.length_cons] at hlimit
      omega
    obtain ⟨c, others, hcs, hc⟩ := hkey.exists_cons
    rw [hcs, List.cons_append] at hread ⊢
    rw [readExpressions, skipWs_of_bare hc]
    dsimp only
    rw [skipLineEnd_of_bare hc]
    simp only [Option.bind_eq_bind, hread, Option.bind_some, hothers]
    rfl

theorem Spelled.dropMark (h : Spelled texts document) : dropMark document = document := by
  cases h with
  | nil => rfl
  | cons hkey _ _ =>
    obtain ⟨c, others, hcs, hc⟩ := hkey.exists_cons
    obtain ⟨-, -, -, -, -, -, -, hfirst⟩ := ne_of_isBareChar hc
    rw [hcs, List.cons_append, Toml.dropMark]
    exact fun _ hsame => hfirst (List.cons.inj hsame).1

end

/-! ## The table of the lines -/

theorem Draft.add_pair {entries : Entries} {key : String} (h : Assoc.lookup key entries = none)
    (node : Node) :
    Draft.add ⟨entries, []⟩ (.pair ([], key) node) = some ⟨entries ++ [(key, node)], []⟩ := by
  have hadded : Entries.addPair [] key node .header entries = some (entries ++ [(key, node)]) := by
    unfold Entries.addPair Entries.descend
    rw [h]
    rfl
  unfold add Entries.descend
  dsimp only
  rw [hadded]
  rfl

def nodesOf (texts : List (String × String)) : Entries :=
  texts.map fun (key, text) => (key, .text text)

theorem foldlM_add_expressionsOf {texts : List (String × String)}
    (h : (texts.map Prod.fst).Nodup) {entries : Entries}
    (hfree : ∀ key ∈ texts.map Prod.fst, Assoc.lookup key entries = none) :
    (expressionsOf texts).foldlM Draft.add ⟨entries, []⟩ =
      some ⟨entries ++ nodesOf texts, []⟩ := by
  -- None of the keys to come is in the table yet.
  induction texts generalizing entries with
  | nil =>
    rw [nodesOf, List.map_nil, List.append_nil]
    rfl
  | cons pair others ih =>
    obtain ⟨key, text⟩ := pair
    rw [List.map_cons, List.nodup_cons] at h
    have hadd := Draft.add_pair (hfree key List.mem_cons_self) (.text text)
    rw [expressionsOf, List.map_cons, List.foldlM_cons, hadd]
    refine (ih h.2 fun other hother => ?_).trans ?_
    · rw [Assoc.lookup_append, hfree other (List.mem_cons_of_mem _ hother), Option.none_or]
      have hkey : key ≠ other := fun hsame => h.1 (hsame ▸ hother)
      rw [Assoc.lookup, if_neg hkey]
      rfl
    · rw [List.append_assoc]
      rfl

theorem tableOf?_expressionsOf {texts : List (String × String)} (h : (texts.map Prod.fst).Nodup) :
    tableOf? (expressionsOf texts) = some (nodesOf texts) := by
  unfold tableOf?
  rw [show ({} : Draft) = ⟨[], []⟩ from rfl, foldlM_add_expressionsOf h fun _ _ => rfl]
  rfl

theorem toTable_nodesOf (texts : List (String × String)) :
    Node.toTable (nodesOf texts) = .ofTexts texts := by
  induction texts with
  | nil => rfl
  | cons pair others ih => exact congrArg _ ih

/-! ## The plain format -/

theorem plain_readsTexts : plain.ReadsTexts := by
  intro texts document hspelled hnodup
  have hread := readExpressions_spelled hspelled (Nat.lt_succ_self _)
  unfold plain parse? expressions?
  dsimp only
  rw [hspelled.dropMark, hread, Option.bind_some, tableOf?_expressionsOf hnodup, Option.map_some,
    toTable_nodesOf]

theorem spelled_writeLine {texts : List (String × String)}
    (h : ∀ key ∈ texts.map Prod.fst, IsBare key) :
    Spelled texts (String.join (texts.map fun (key, text) => writeLine key text)).toList := by
  rw [String.toList_join]
  induction texts with
  | nil => exact .nil
  | cons pair others ih =>
    obtain ⟨key, text⟩ := pair
    have hline : (writeLine key text).toList =
        key.toList ++ ' ' :: '=' :: ' ' :: ((writeText text).toList ++ ['\n']) := by
      unfold writeLine
      simp only [String.toList_append, List.append_assoc]
      rfl
    rw [List.map_cons, List.flatMap_cons, hline]
    simp only [List.append_assoc, List.cons_append, List.nil_append]
    exact .cons (h key List.mem_cons_self) (spells_writeText text)
      (ih fun other hother => h other (List.mem_cons_of_mem _ hother))

theorem plain_writesTexts : plain.WritesTexts :=
  fun _ hbare _ => ⟨_, rfl, spelled_writeLine hbare⟩

end TraceFlow.Toml
