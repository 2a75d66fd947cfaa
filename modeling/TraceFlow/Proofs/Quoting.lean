import TraceFlow.Proofs.Spelling
import TraceFlow.Toml.Writer

/-!
# Texts come back from their quotes

Every spelling of a text is read as that text, and what is written for a text is a spelling of it.
Between three quotes that takes care of runs of quotes, of which those at the end stand next to the
closing ones.
-/

namespace TraceFlow.Toml

/-! ## Reading characters -/

theorem ne_of_isBasicChar {c : Char} (h : isBasicChar c) :
    c ≠ '"' ∧ c ≠ '\\' ∧ c ≠ '\n' ∧ c ≠ '\r' := by
  refine ⟨?_, ?_, ?_, ?_⟩
  all_goals
    rintro rfl
    cases h

theorem Stands.head {unit : List Char} {c : Char} (h : Stands unit c) :
    ∃ d others, unit = d :: others ∧ d ≠ '"' ∧ d ≠ '\n' ∧ d ≠ '\r' := by
  cases h with
  | plain h =>
    obtain ⟨hquote, -, hline, hreturn⟩ := ne_of_isBasicChar h
    exact ⟨c, [], rfl, hquote, hline, hreturn⟩
  | letter | code | longCode => exact ⟨'\\', _, rfl, by decide, by decide, by decide⟩

theorem readBasic_stands {unit : List Char} {c : Char} (h : Stands unit c) (rest : List Char) :
    readBasic (unit ++ rest) = push (some c) (readBasic rest) := by
  cases h with
  | plain h =>
    obtain ⟨hquote, hslash, -⟩ := ne_of_isBasicChar h
    rw [List.singleton_append, readBasic, if_pos h]
    · exact hquote
    · exact fun _ _ _ _ _ hc _ => hslash hc
    · exact fun _ _ _ _ _ _ _ _ _ hc _ => hslash hc
    · exact fun _ _ hc _ => hslash hc
  | letter h =>
    rw [List.cons_append, List.singleton_append, readBasic, h]
    · rintro _ _ _ _ _ rfl
      cases h
    · rintro _ _ _ _ _ _ _ _ _ rfl
      cases h
  | @code digits _ hlength h =>
    match digits, hlength with
    | [_, _, _, _], _ =>
      simp only [List.cons_append, List.nil_append]
      rw [readBasic, h]
  | @longCode digits _ hlength h =>
    match digits, hlength with
    | [_, _, _, _, _, _, _, _], _ =>
      simp only [List.cons_append, List.nil_append]
      rw [readBasic, h]

theorem readBasicLines_stands {unit : List Char} {c : Char} (h : Stands unit c)
    (rest : List Char) :
    readBasicLines .text (unit ++ rest) = push (some c) (readBasicLines .text rest) := by
  cases h with
  | plain h =>
    obtain ⟨hquote, hslash, hline, hreturn⟩ := ne_of_isBasicChar h
    rw [List.singleton_append]
    by_cases hspace : c = ' '
    · rw [hspace, readBasicLines]
    by_cases htab : c = '\t'
    · rw [htab, readBasicLines]
    rw [readBasicLines, if_neg LineState.noConfusion, if_pos h]
    all_goals simp_all
  | @letter e _ h =>
    have hline : e ≠ '\n' := by
      rintro rfl
      cases h
    have hblank : ¬ isWs e = true := by
      unfold escaped? at h
      split at h
      all_goals first | decide | cases h
    rw [List.cons_append, List.singleton_append, readBasicLines, if_neg LineState.noConfusion,
      if_neg hline, if_neg hblank, h]
    · rintro _ _ _ _ _ rfl
      cases h
    · rintro _ _ _ _ _ _ _ _ _ rfl
      cases h
    · rintro _ rfl
      cases h
  | @code digits _ hlength h =>
    match digits, hlength with
    | [_, _, _, _], _ =>
      simp only [List.cons_append, List.nil_append]
      rw [readBasicLines, if_neg LineState.noConfusion, h]
  | @longCode digits _ hlength h =>
    match digits, hlength with
    | [_, _, _, _, _, _, _, _], _ =>
      simp only [List.cons_append, List.nil_append]
      rw [readBasicLines, if_neg LineState.noConfusion, h]

/-! ## Reading one line -/

theorem Basic.read {spelling text : List Char} (h : Basic spelling text) (rest : List Char) :
    readBasic (spelling ++ '"' :: rest) = some (text, rest) := by
  induction h with
  | nil => rw [List.nil_append, readBasic]
  | cons hunit _ ih =>
    rw [List.append_assoc, readBasic_stands hunit, ih]
    rfl

theorem readLiteral_append {cs : List Char} (h : ∀ c ∈ cs, isLiteralChar c) (rest : List Char) :
    readLiteral (cs ++ '\'' :: rest) = some (cs, rest) := by
  induction cs with
  | nil => rw [List.nil_append, readLiteral]
  | cons c others ih =>
    have hc := h c List.mem_cons_self
    have hquote : c ≠ '\'' := by
      rintro rfl
      cases hc
    rw [List.cons_append, readLiteral, if_pos hc, ih fun d hd => h d (List.mem_cons_of_mem _ hd)]
    · rfl
    · exact hquote

/-! ## Reading several lines -/

/-- A reader goes by the rules: it takes what they say for each character, passes over the gaps, and
takes up to two quotes in a row, also next to the closing three. -/
structure Rules.ReadBy (rules : Rules) (read : List Char → Option (List Char × List Char)) :
    Prop where
  quote : NoBlank [rules.quote]
  char : ∀ unit c, rules.Stands unit c → ∀ rest, read (unit ++ rest) = push (some c) (read rest)
  char_head : ∀ unit c, rules.Stands unit c → ∃ d others, unit = d :: others ∧ d ≠ rules.quote
  gap : ∀ blanks, rules.Gap blanks → ∀ rest, NoBlank rest → read (blanks ++ rest) = read rest
  gap_head : ∀ blanks, rules.Gap blanks → ∃ d others, blanks = d :: others ∧ d ≠ rules.quote
  single : ∀ rest, (∀ more, rest ≠ rules.quote :: rules.quote :: more) →
    read (rules.quote :: rest) = push (some rules.quote) (read rest)
  closing : ∀ count ≤ 2, ∀ rest, (∀ more, rest ≠ rules.quote :: more) →
    read (List.replicate count rules.quote ++
        (rules.quote :: rules.quote :: rules.quote :: rest)) =
      some (List.replicate count rules.quote, rest)

section

variable {rules : Rules} {read : List Char → Option (List Char × List Char)}

theorem Rules.ReadBy.replicate (h : rules.ReadBy read) {count : Nat} (hcount : count ≤ 2)
    {rest : List Char} (hrest : ∃ d others, rest = d :: others ∧ d ≠ rules.quote)
    {text left : List Char} (hread : read rest = some (text, left)) :
    read (List.replicate count rules.quote ++ rest) =
      some (List.replicate count rules.quote ++ text, left) := by
  obtain ⟨d, others, rfl, hd⟩ := hrest
  induction count with
  | zero => exact hread
  | succ count ih =>
    rw [List.replicate_succ, List.cons_append, h.single, ih (by omega)]
    · rfl
    · intro more hsame
      match count, hcount with
      | 0, _ => exact hd (List.cons.inj hsame).1
      | 1, _ => exact hd (List.cons.inj (List.cons.inj hsame).2).1

theorem NoBlank.append {spelling : List Char} (h : NoBlank spelling) {quote : Char}
    (hquote : NoBlank [quote]) (rest : List Char) : NoBlank (spelling ++ quote :: rest) := by
  cases spelling with
  | nil =>
    refine ⟨fun c others hsame => ?_, fun c others hsame => ?_⟩
    · cases hsame
      exact hquote.1 _ _ rfl
    · cases hsame
      exact hquote.2 _ _ rfl
  | cons d others =>
    refine ⟨fun c others hsame => ?_, fun c others hsame => ?_⟩
    · cases hsame
      exact h.1 _ _ rfl
    · cases hsame
      exact h.2 _ _ rfl

/-- What is spelled is read, together with the quotes before it. -/
theorem Rules.Lines.read_eq (hread : rules.ReadBy read) {quotes : Nat} {spelling text : List Char}
    (h : rules.Lines quotes spelling text) (hquotes : quotes ≤ 2) {rest : List Char}
    (hrest : ∀ more, rest ≠ rules.quote :: more) :
    read (List.replicate quotes rules.quote ++
        (spelling ++ rules.quote :: rules.quote :: rules.quote :: rest)) =
      some (List.replicate quotes rules.quote ++ text, rest) := by
  -- Quotes are read only when it is known what follows them, so they are kept back till then.
  induction h with
  | nil =>
    rw [List.nil_append, List.append_nil]
    exact hread.closing _ hquotes rest hrest
  | @quote quotes spelling text hfew _ ih =>
    have hshift (cs : List Char) : List.replicate quotes rules.quote ++ rules.quote :: cs =
        List.replicate (quotes + 1) rules.quote ++ cs := by
      rw [List.replicate_succ', List.append_assoc]
      rfl
    rw [List.cons_append, hshift, hshift]
    exact ih hfew
  | @char quotes unit spelling text c hunit _ ih =>
    obtain ⟨d, others, rfl, hd⟩ := hread.char_head unit c hunit
    have hothers := ih (Nat.zero_le 2)
    simp only [List.replicate_zero, List.nil_append] at hothers
    rw [List.append_assoc]
    refine hread.replicate hquotes ?_ ?_
    · exact ⟨d, _, rfl, hd⟩
    · rw [hread.char _ c hunit, hothers]
      rfl
  | @gap quotes blanks spelling text hgap hstop _ ih =>
    obtain ⟨d, others, rfl, hd⟩ := hread.gap_head blanks hgap
    have hothers := ih (Nat.zero_le 2)
    simp only [List.replicate_zero, List.nil_append] at hothers
    rw [List.append_assoc]
    refine hread.replicate hquotes ?_ ?_
    · exact ⟨d, _, rfl, hd⟩
    · rw [hread.gap _ hgap _ (hstop.append hread.quote _), hothers]

end

/-! ### Between double quotes -/

theorem isWs_iff {c : Char} : isWs c ↔ c = ' ' ∨ c = '\t' := by
  simp [isWs]

theorem readBasicLines_trimming_blanks {blanks : List Char} (h : Blanks blanks)
    (rest : List Char) :
    readBasicLines .trimming (blanks ++ rest) = readBasicLines .trimming rest := by
  induction h with
  | nil => rfl
  | ws hc _ ih =>
    rcases isWs_iff.mp hc with rfl | rfl
    all_goals
      rw [List.cons_append, readBasicLines, ih]
      exact nofun
  | line hline _ ih =>
    cases hline
    all_goals
      simp only [List.cons_append, List.nil_append]
      rw [readBasicLines, ih]
      exact nofun

theorem readBasicLines_lineEnd {blanks first : List Char} (h : ∀ c ∈ blanks, isWs c)
    (hfirst : LineBreak first) (rest : List Char) :
    readBasicLines .lineEnd (blanks ++ (first ++ rest)) = readBasicLines .trimming rest := by
  induction blanks with
  | nil =>
    cases hfirst
    all_goals
      simp only [List.cons_append, List.nil_append]
      rw [readBasicLines]
      exact nofun
  | cons c others ih =>
    rcases isWs_iff.mp (h c List.mem_cons_self) with rfl | rfl
    all_goals
      rw [List.cons_append, readBasicLines, ih fun d hd => h d (List.mem_cons_of_mem _ hd)]
      exact nofun

theorem readBasicLines_trimming {rest : List Char} (h : NoBlank rest) :
    readBasicLines .trimming rest = readBasicLines .text rest := by
  rw [readBasicLines.eq_def, readBasicLines.eq_def]
  split
  case h_2 => exact absurd rfl (h.1 _ _ rfl).2
  case h_3 => exact absurd rfl (h.1 _ _ rfl).1
  case h_4 | h_5 => cases h.2 _ _ rfl
  all_goals rfl

theorem readBasicLines_gap {gap rest : List Char} (h : Gap gap) (hrest : NoBlank rest) :
    readBasicLines .text (gap ++ rest) = readBasicLines .text rest := by
  obtain @⟨blanks, first, more, hblanks, hfirst, hmore⟩ := h
  have htrimmed : readBasicLines .trimming (more ++ rest) = readBasicLines .text rest := by
    rw [readBasicLines_trimming_blanks hmore, readBasicLines_trimming hrest]
  rw [← htrimmed]
  cases blanks with
  | nil =>
    cases hfirst with
    | short =>
      simp only [List.cons_append, List.nil_append]
      rw [readBasicLines, if_neg LineState.noConfusion, if_pos rfl]
      all_goals exact nofun
    | long =>
      simp only [List.cons_append, List.nil_append]
      rw [readBasicLines, if_neg LineState.noConfusion]
  | cons c others =>
    have hothers := readBasicLines_lineEnd (fun d hd => hblanks d (List.mem_cons_of_mem _ hd))
      hfirst (more ++ rest)
    have hc := hblanks c List.mem_cons_self
    have hplain : c ≠ '\n' ∧ c ≠ '\r' ∧ c ≠ 'u' ∧ c ≠ 'U' := by
      rcases isWs_iff.mp hc with rfl | rfl <;> decide
    simp only [List.cons_append, List.append_assoc]
    rw [readBasicLines, if_neg LineState.noConfusion, if_neg hplain.1, if_pos hc, hothers]
    · exact fun _ _ _ _ _ hsame _ => hplain.2.2.1 hsame
    · exact fun _ _ _ _ _ _ _ _ _ hsame _ => hplain.2.2.2 hsame
    · exact fun _ hsame _ => hplain.2.1 hsame

theorem readBy_basic : basicRules.ReadBy (readBasicLines .text) where
  quote := by simp [NoBlank, NoBreak, basicRules, isWs]
  char unit c hunit rest := by
    rcases hunit with hstands | ⟨rfl, rfl⟩
    · exact readBasicLines_stands hstands rest
    · rw [List.singleton_append, readBasicLines]
  char_head unit c hunit := by
    rcases hunit with hstands | ⟨rfl, rfl⟩
    · obtain ⟨d, others, rfl, hd, -⟩ := hstands.head
      exact ⟨d, others, rfl, hd⟩
    · exact ⟨'\n', [], rfl, by decide⟩
  gap _ hgap _ := readBasicLines_gap hgap
  gap_head blanks hgap := by
    cases hgap
    exact ⟨'\\', _, rfl, by decide⟩
  single rest h := by
    rw [basicRules, readBasicLines, if_neg LineState.noConfusion]
    · exact fun more => h _
    · exact fun more => h _
    · exact h
  closing count hcount rest hrest := by
    match count, hcount with
    | 0, _ =>
      rw [List.replicate_zero, List.nil_append, basicRules, readBasicLines,
        if_neg LineState.noConfusion]
      · exact fun more => hrest _
      · exact hrest
    | 1, _ =>
      rw [List.replicate_one, List.singleton_append, basicRules, readBasicLines,
        if_neg LineState.noConfusion]
      exact hrest
    | 2, _ =>
      rw [List.replicate_succ, List.replicate_one, List.cons_append, List.singleton_append,
        basicRules, readBasicLines, if_neg LineState.noConfusion]

/-! ### Between single quotes -/

theorem readLiteralLines_of_isLiteralChar {c : Char} (h : isLiteralChar c) (rest : List Char) :
    readLiteralLines (c :: rest) = push (some c) (readLiteralLines rest) := by
  have hquote : c ≠ '\'' := by
    rintro rfl
    cases h
  rw [readLiteralLines, if_pos h]
  · rintro _ rfl
    cases h
  · rintro rfl
    cases h
  · exact fun _ hsame _ => hquote hsame
  · exact fun _ hsame _ => hquote hsame
  · exact fun _ hsame _ => hquote hsame
  · exact hquote

theorem readBy_literal : literalRules.ReadBy readLiteralLines where
  quote := by simp [NoBlank, NoBreak, literalRules, isWs]
  char unit c hunit rest := by
    obtain ⟨rfl, hliteral | rfl⟩ := hunit
    · exact readLiteralLines_of_isLiteralChar hliteral rest
    · rw [List.singleton_append, readLiteralLines]
  char_head unit c hunit := by
    obtain ⟨rfl, hliteral | rfl⟩ := hunit
    · refine ⟨c, [], rfl, ?_⟩
      rintro rfl
      cases hliteral
    · exact ⟨'\n', [], rfl, by decide⟩
  gap _ hgap := hgap.elim
  gap_head _ hgap := hgap.elim
  single rest h := by
    rw [literalRules, readLiteralLines]
    · exact fun more => h _
    · exact fun more => h _
    · exact h
  closing count hcount rest hrest := by
    match count, hcount with
    | 0, _ =>
      rw [List.replicate_zero, List.nil_append, literalRules, readLiteralLines]
      · exact fun more => hrest _
      · exact hrest
    | 1, _ =>
      rw [List.replicate_one, List.singleton_append, literalRules, readLiteralLines]
      exact hrest
    | 2, _ =>
      rw [List.replicate_succ, List.replicate_one, List.cons_append, List.singleton_append,
        literalRules, readLiteralLines]

/-! ## Reading all forms -/

theorem readText_of_double {cs : List Char} (h : ∀ more, cs ≠ '"' :: '"' :: more) :
    readText ('"' :: cs) = readLineText ('"' :: cs) := by
  rw [readText]
  · exact fun _ hsame => h _ (List.cons.inj hsame).2
  · exact fun _ hsame => by cases (List.cons.inj hsame).1

theorem readText_of_single {cs : List Char} (h : ∀ more, cs ≠ '\'' :: '\'' :: more) :
    readText ('\'' :: cs) = readLineText ('\'' :: cs) := by
  rw [readText]
  · exact fun _ hsame => by cases (List.cons.inj hsame).1
  · exact fun _ hsame => h _ (List.cons.inj hsame).2

theorem dropNewline_append {first spelling : List Char} {quote : Char}
    (h : first = [] ∧ NoBreak spelling ∨ LineBreak first) (hquote : NoBlank [quote])
    (rest : List Char) :
    dropNewline (first ++ (spelling ++ quote :: rest)) = spelling ++ quote :: rest := by
  rcases h with ⟨rfl, hbreak⟩ | ⟨⟨⟩⟩
  · have hstart : NoBreak (spelling ++ quote :: rest) := by
      cases spelling with
      | nil =>
        intro c others hsame
        cases hsame
        exact hquote.1 _ _ rfl
      | cons d others =>
        intro c others hsame
        cases hsame
        exact hbreak _ _ rfl
    rw [List.nil_append, dropNewline]
    · exact fun _ hsame => (hstart _ _ hsame).2 rfl
    · exact fun _ hsame => (hstart _ _ hsame).1 rfl
  · rfl
  · rfl

/-- A text is read from any spelling of it, whatever follows but a quote. -/
theorem Spells.read {spelling text : List Char} (h : Spells spelling text) {rest : List Char}
    (hdouble : ∀ more, rest ≠ '"' :: more) (hsingle : ∀ more, rest ≠ '\'' :: more) :
    readText (spelling ++ rest) = some (String.ofList text, rest) := by
  cases h with
  | @basic spelling _ h =>
    have hfirst : ∀ more, spelling ++ '"' :: rest ≠ '"' :: '"' :: more := by
      intro more hsame
      cases h with
      | nil => exact hdouble _ (List.cons.inj hsame).2
      | cons hunit _ =>
        obtain ⟨d, others, rfl, hd, -⟩ := hunit.head
        exact hd (List.cons.inj hsame).1
    simp only [List.cons_append, List.append_assoc, List.nil_append]
    rw [readText_of_double hfirst, readLineText, h.read]
    rfl
  | literal h =>
    have hfirst : ∀ more, text ++ '\'' :: rest ≠ '\'' :: '\'' :: more := by
      intro more hsame
      cases text with
      | nil => exact hsingle _ (List.cons.inj hsame).2
      | cons c others =>
        have hc := h c List.mem_cons_self
        rw [(List.cons.inj hsame).1] at hc
        cases hc
    simp only [List.cons_append, List.append_assoc, List.nil_append]
    rw [readText_of_single hfirst, readLineText, readLiteral_append h]
    rfl
  | @basicLines _ spelling _ hfirst h =>
    have hread : readBasicLines .text (spelling ++ '"' :: '"' :: '"' :: rest) = some (text, rest) :=
      h.read_eq readBy_basic (Nat.zero_le 2) hdouble
    have hquote : NoBlank ['"'] := readBy_basic.quote
    simp only [List.cons_append, List.append_assoc, List.nil_append]
    rw [readText, dropNewline_append hfirst hquote, hread]
    rfl
  | @literalLines _ spelling _ hfirst h =>
    have hread : readLiteralLines (spelling ++ '\'' :: '\'' :: '\'' :: rest) = some (text, rest) :=
      h.read_eq readBy_literal (Nat.zero_le 2) hsingle
    have hquote : NoBlank ['\''] := readBy_literal.quote
    simp only [List.cons_append, List.append_assoc, List.nil_append]
    rw [readText, dropNewline_append hfirst hquote, hread]
    rfl

/-! ## Writing characters -/

theorem length_fourDigits {n : Nat} (h : n < 0x80) : (fourDigits n).length = 4 := by
  revert n
  decide +kernel

theorem charOfHex?_fourDigits {n : Nat} (h : n < 0x80) :
    charOfHex? (fourDigits n) = some (Char.ofNat n) := by
  revert n
  decide +kernel

theorem lt_of_isControl {c : Char} (h : isControl c) : c.toNat < 0x80 := by
  simp only [isControl, Bool.or_eq_true, Bool.and_eq_true, decide_eq_true_eq] at h
  omega

theorem isLineChar_of_isControl {c : Char} (h : isControl c = false) (hline : c ≠ '\n') :
    isLineChar c := by
  by_cases htab : c = '\t'
  · rw [htab]
    rfl
  · have hcode : 0x20 ≤ c.toNat ∧ c.toNat ≠ 0x7F := by
      simpa [isControl, htab, hline] using h
    simp [isLineChar, hcode]

theorem isBasicChar_of_escape? {c : Char} (hquote : c ≠ '"') (hline : c ≠ '\n')
    (h : escape? c = none) : isBasicChar c := by
  have hslash : c ≠ '\\' := by
    rintro rfl
    cases h
  have hcontrol : isControl c = false := by
    unfold escape? at h
    split at h
    case h_6 =>
      split at h
      · cases h
      · next hcontrol => exact Bool.eq_false_iff.mpr hcontrol
    all_goals cases h
  simp [isBasicChar, isLineChar_of_isControl hcontrol hline, hquote, hslash]

theorem stands_escape {c : Char} (hquote : c ≠ '"') (hline : c ≠ '\n') :
    Stands ((escape? c).getD [c]) c := by
  cases hescape : escape? c with
  | none => exact .plain (isBasicChar_of_escape? hquote hline hescape)
  | some written =>
    unfold escape? at hescape
    split at hescape
    case h_6 =>
      split at hescape
      · next hcontrol =>
        cases hescape
        have hlt := lt_of_isControl hcontrol
        have hcode := charOfHex?_fourDigits hlt
        rw [Char.ofNat_toNat] at hcode
        exact .code (length_fourDigits hlt) hcode
      · cases hescape
    all_goals
      cases hescape
      exact .letter rfl

/-! ## Writing texts -/

theorem basic_writeBasic (text : List Char) : Basic (writeBasic text) text := by
  induction text with
  | nil => exact .nil
  | cons c others ih =>
    refine .cons ?_ ih
    split
    · next hquote =>
      rw [hquote]
      exact .letter rfl
    · next hquote =>
      split
      · next hline =>
        rw [hline]
        exact .letter rfl
      · next hline => exact stands_escape hquote hline

theorem lines_writeBasicLines (quotes : Nat) (text : List Char) (hquotes : quotes ≤ 2) :
    basicRules.Lines quotes (writeBasicLines quotes text) text := by
  induction text generalizing quotes with
  | nil => exact .nil
  | cons c others ih =>
    by_cases hquote : c = '"'
    · subst hquote
      rw [writeBasicLines]
      split
      · have hunit : basicRules.Stands ['\\', '"'] '"' := Or.inl (.letter rfl)
        exact .char hunit (ih 0 (Nat.zero_le 2))
      · exact .quote (by omega) (ih (quotes + 1) (by omega))
    · rw [writeBasicLines]
      · refine .char ?_ (ih 0 (Nat.zero_le 2))
        split
        · next hline => exact .inr ⟨congrArg (fun d => [d]) hline, hline⟩
        · next hline => exact .inl (stands_escape hquote hline)
      · exact hquote

theorem noBreak_writeBasicLines {text : List Char} (h : '\n' ∉ text) :
    NoBreak (writeBasicLines 0 text) := by
  intro d rest hsame
  cases text with
  | nil => cases hsame
  | cons c others =>
    by_cases hquote : c = '"'
    · subst hquote
      cases hsame
      exact ⟨by decide, by decide⟩
    · have hline : c ≠ '\n' := fun hsame => h (hsame ▸ List.mem_cons_self)
      obtain ⟨first, more, hunit, -, hfirst⟩ := (stands_escape hquote hline).head
      rw [writeBasicLines, if_neg hline, hunit] at hsame
      · cases hsame
        exact hfirst
      · exact hquote

/-- No more than `limit` of a character stand in a row, of which `run` stand before the text. -/
def ShortRuns (c : Char) (limit : Nat) : (run : Nat) → List Char → Prop
  | _, [] => True
  | run, d :: rest =>
    if d = c then run + 1 ≤ limit ∧ ShortRuns c limit (run + 1) rest else ShortRuns c limit 0 rest

theorem longestRun_le_iff (c : Char) (limit : Nat) (text : List Char) :
    longestRun c text ≤ limit ↔ ShortRuns c limit 0 text := by
  have hfold (run longest : Nat) :
      (text.foldl
        (fun runs d => if d = c then (runs.1 + 1, max runs.2 (runs.1 + 1)) else (0, runs.2))
        (run, longest)).2 ≤ limit ↔ longest ≤ limit ∧ ShortRuns c limit run text := by
    -- The run at hand is bounded only once it goes on, and by then it is among the longest.
    induction text generalizing run longest with
    | nil => exact ⟨fun h => ⟨h, trivial⟩, fun h => h.1⟩
    | cons d rest ih =>
      rw [List.foldl_cons, ShortRuns]
      dsimp only
      split
      · rw [ih, Nat.max_le, and_assoc]
      · rw [ih]
  exact (hfold 0 0).trans ⟨fun h => h.2, fun h => ⟨Nat.zero_le _, h⟩⟩

theorem ne_of_longestRun {c : Char} {text : List Char} (h : longestRun c text = 0) :
    ∀ d ∈ text, d ≠ c := by
  replace h := (longestRun_le_iff c 0 text).mp (Nat.le_of_eq h)
  induction text with
  | nil => exact fun _ hd => absurd hd List.not_mem_nil
  | cons first rest ih =>
    rw [ShortRuns] at h
    split at h
    · exact absurd h.1 (Nat.not_succ_le_zero 0)
    · next hfirst =>
      intro d hd
      rcases List.mem_cons.mp hd with rfl | hrest
      · exact hfirst
      · exact ih h d hrest

theorem lines_literal (quotes : Nat) (text : List Char)
    (hcontrol : ∀ c ∈ text, isControl c = false) (hshort : ShortRuns '\'' 2 quotes text) :
    literalRules.Lines quotes text text := by
  induction text generalizing quotes with
  | nil => exact .nil
  | cons c others ih =>
    have hothers := fun d hd => hcontrol d (List.mem_cons_of_mem c hd)
    rw [ShortRuns] at hshort
    split at hshort
    · next hquote =>
      subst hquote
      exact .quote hshort.1 (ih _ hothers hshort.2)
    · next hquote =>
      have hunit : literalRules.Stands [c] c := by
        refine ⟨rfl, ?_⟩
        by_cases hline : c = '\n'
        · exact .inr hline
        · have hc := isLineChar_of_isControl (hcontrol c List.mem_cons_self) hline
          exact .inl (by simp [isLiteralChar, hc, hquote])
      exact .char hunit (ih 0 hothers hshort)

/-! ## Writing all forms -/

theorem firstBreak_or {spelling text : List Char} (h : '\n' ∉ text → NoBreak spelling) :
    (if text.contains '\n' then ['\n'] else []) = [] ∧ NoBreak spelling ∨
      LineBreak (if text.contains '\n' then ['\n'] else []) := by
  split
  · exact .inr .short
  · next hnone => exact .inl ⟨rfl, h (by simpa using hnone)⟩

def Form.Holds : Form → List Char → Prop
  | .basic, _ | .basicLines, _ => True
  | .literal, text => ∀ c ∈ text, isLiteralChar c
  | .literalLines, text => (∀ c ∈ text, isControl c = false) ∧ longestRun '\'' text ≤ 2

theorem Form.holds_ofText (text : List Char) : (Form.ofText text).Holds text := by
  unfold Form.ofText
  dsimp only
  split
  · trivial
  split
  · next hliteral =>
    simp only [Bool.and_eq_true, Bool.not_eq_true', List.any_eq_false,
      decide_eq_true_eq] at hliteral
    obtain ⟨⟨hcontrol, hlines⟩, hrun⟩ := hliteral
    intro c hc
    have hline : c ≠ '\n' := by
      rintro rfl
      rw [List.contains_eq_mem, decide_eq_false_iff_not] at hlines
      exact hlines hc
    have hplain : isControl c = false := by simpa using hcontrol c hc
    simp [isLiteralChar, isLineChar_of_isControl hplain hline, ne_of_longestRun hrun c hc]
  split
  · trivial
  split
  · next hliteral =>
    simp only [Bool.and_eq_true, Bool.not_eq_true', List.any_eq_false,
      decide_eq_true_eq] at hliteral
    exact ⟨fun c hc => by simpa using hliteral.1 c hc, hliteral.2⟩
  split <;> trivial

theorem noBreak_of_isControl {text : List Char} (hcontrol : ∀ c ∈ text, isControl c = false)
    (h : '\n' ∉ text) : NoBreak text := by
  rintro c rest rfl
  refine ⟨fun hsame => h (hsame ▸ List.mem_cons_self), ?_⟩
  rintro rfl
  cases hcontrol '\r' List.mem_cons_self

theorem spells_writeText (text : String) : Spells (writeText text).toList text.toList := by
  have hholds := Form.holds_ofText text.toList
  unfold writeText
  rw [String.toList_ofList]
  cases hform : Form.ofText text.toList with
  | basic => exact .basic (basic_writeBasic _)
  | literal =>
    rw [hform] at hholds
    exact .literal hholds
  | basicLines =>
    have hlines := lines_writeBasicLines 0 text.toList (Nat.zero_le 2)
    simpa using Spells.basicLines (firstBreak_or noBreak_writeBasicLines) hlines
  | literalLines =>
    rw [hform] at hholds
    have hlines := lines_literal 0 _ hholds.1 ((longestRun_le_iff '\'' 2 _).mp hholds.2)
    simpa using Spells.literalLines (firstBreak_or (noBreak_of_isControl hholds.1)) hlines

end TraceFlow.Toml
