import TraceFlow.Proofs.Draws

/-!
# Messages of batches

A reader of messages yields the messages of the batches that the reader it was made from would have
yielded, one after the other.
-/

namespace TraceFlow

variable {W : Type}

/-- What a reader of messages yields for something that a reader of batches yields. -/
def Drawn.spread : Drawn Batch → List (Drawn Message)
  | .item batch => batch.map .item
  | .failed e => [.failed e]
  | .exhausted => [.exhausted]
  | .waiting => []

namespace Messages

/-! ## Patience -/

theorem next_succ (patience : Nat) (reader : Messages W) (session : Session W Unit)
    (h : (reader.next patience session).1 ≠ .waiting) :
    reader.next (patience + 1) session = reader.next patience session := by
  obtain ⟨batches, pending⟩ := reader
  induction patience generalizing batches pending session with
  | zero =>
    cases pending with
    | nil => exact absurd rfl h
    | cons message pending => rfl
  | succ patience ih =>
    cases pending with
    | cons message pending => rfl
    | nil =>
      have hsucc := batches.next_succ (patience + 1) session
      rcases hbatches : batches.next (patience + 1) session with ⟨drawn, later, last⟩
      rw [hbatches] at hsucc
      cases drawn with
      | item batch =>
        rw [next, hbatches] at h
        rw [next, next, hsucc (by simp), hbatches]
        exact ih _ _ _ h
      | failed e => rw [next, next, hsucc (by simp), hbatches]
      | exhausted => rw [next, next, hsucc (by simp), hbatches]
      | waiting =>
        rw [next, hbatches] at h
        exact absurd rfl h

theorem comes_of_next {reader : Messages W} {session : Session W Unit}
    {outcome : Drawn Message × Messages W × Session W Unit} {patience : Nat}
    (h : reader.next patience session = outcome) (hcame : outcome.1 ≠ .waiting) :
    Comes next reader session outcome :=
  TraceFlow.comes_of_next next_succ h hcame

/-! ## From batches to messages -/

theorem comes_of_pending (batches : Batches W) (message : Message) (pending : List Message)
    (session : Session W Unit) :
    Comes next ⟨batches, message :: pending⟩ session
      (.item message, ⟨batches, pending⟩, session) := by
  refine ⟨by simp, 0, fun patience _ => ?_⟩
  cases patience <;> rfl

theorem reads_pending (batches : Batches W) (pending : List Message) (session : Session W Unit) :
    Reads next ⟨batches, pending⟩ session (pending.map .item) ⟨batches, []⟩ session := by
  induction pending with
  | nil => exact .nil _ _
  | cons message pending ih => exact .cons (comes_of_pending batches message pending session) ih

variable {batches between : Batches W} {session opened : Session W Unit}

theorem comes_of_batch {batch : Batch}
    (h : Comes Batches.next batches session (.item batch, between, opened))
    {outcome : Drawn Message × Messages W × Session W Unit}
    (hcomes : Comes next ⟨between, batch⟩ opened outcome) :
    Comes next ⟨batches, []⟩ session outcome := by
  obtain ⟨-, enough, h⟩ := h
  obtain ⟨hcame, enough', hcomes⟩ := hcomes
  have hnext : next (enough + enough' + 1) ⟨batches, []⟩ session = outcome := by
    rw [next, h _ (by omega)]
    exact hcomes _ (by omega)
  exact comes_of_next hnext hcame

theorem comes_of_final {drawn : Drawn Batch} {passed : Drawn Message}
    (hfinal : drawn.isFinal = true) (hspread : drawn.spread = [passed])
    (h : Comes Batches.next batches session (drawn, between, opened)) :
    Comes next ⟨batches, []⟩ session (passed, ⟨between, []⟩, opened) := by
  obtain ⟨-, enough, h⟩ := h
  have hnext : next (enough + 1) ⟨batches, []⟩ session = (passed, ⟨between, []⟩, opened) ∧
      passed ≠ .waiting := by
    rw [next, h _ (by omega)]
    cases drawn with
    | failed e => cases hspread; simp
    | exhausted => cases hspread; simp
    | item batch => cases hfinal
    | waiting => cases hfinal
  exact comes_of_next hnext.1 hnext.2

theorem reads_spread {later : Batches W} {last : Session W Unit} {drawn : List (Drawn Batch)}
    (h : Reads Batches.next batches session drawn later last) :
    ∃ reader closed,
      Reads next ⟨batches, []⟩ session (drawn.flatMap Drawn.spread) reader closed := by
  induction h with
  | nil batches session => exact ⟨_, _, .nil _ _⟩
  | @cons batches between _ session opened _ item rest hcomes _ ih =>
    obtain ⟨reader, closed, hrest⟩ := ih
    cases item with
    | item batch =>
      have hreads := (reads_pending between batch opened).append hrest
      exact hreads.of_comes fun _ => comes_of_batch hcomes
    | failed e => exact ⟨reader, closed, .cons (comes_of_final rfl rfl hcomes) hrest⟩
    | exhausted => exact ⟨reader, closed, .cons (comes_of_final rfl rfl hcomes) hrest⟩
    | waiting => exact absurd rfl hcomes.1

/-! ## From messages to batches -/

/-- What comes when nothing is pending is the first message of a batch, whose others are pending
then, or an error or the end; the batches before it were empty. -/
theorem reads_of_next {patience : Nat} {drawn : Drawn Message} {later : Batches W}
    {pending : List Message} {last : Session W Unit}
    (h : next patience ⟨batches, []⟩ session = (drawn, ⟨later, pending⟩, last))
    (hcame : drawn ≠ .waiting) :
    ∃ items, Reads Batches.next batches session items later last ∧
      items.flatMap Drawn.spread = drawn :: pending.map .item := by
  -- An empty batch costs some patience: the next one is asked for with what is left.
  induction patience generalizing batches session with
  | zero =>
    cases h
    exact absurd rfl hcame
  | succ patience ih =>
    rcases hbatches : batches.next (patience + 1) session with ⟨item, between, opened⟩
    have hcomes : item ≠ .waiting →
        Comes Batches.next batches session (item, between, opened) :=
      Batches.comes_of_next hbatches
    rw [next, hbatches] at h
    cases item with
    | item batch =>
      cases batch with
      | nil =>
        obtain ⟨items, hreads, hspread⟩ := ih h
        exact ⟨.item [] :: items, .cons (hcomes (by simp)) hreads, hspread⟩
      | cons message rest =>
        have hfirst : next patience ⟨between, message :: rest⟩ opened =
            (.item message, ⟨between, rest⟩, opened) := by
          cases patience <;> rfl
        cases hfirst.symm.trans h
        refine ⟨[.item (message :: pending)], .cons (hcomes (by simp)) (.nil _ _), ?_⟩
        simp [Drawn.spread]
    | failed e =>
      cases h
      exact ⟨[.failed e], .cons (hcomes (by simp)) (.nil _ _), rfl⟩
    | exhausted =>
      cases h
      exact ⟨[.exhausted], .cons (hcomes (by simp)) (.nil _ _), rfl⟩
    | waiting =>
      cases h
      exact absurd rfl hcame

theorem exists_reads {reader later : Messages W} {last : Session W Unit}
    {items : List (Drawn Message)} (h : Reads next reader session items later last) :
    ∃ drawn batches closed, Reads Batches.next reader.batches session drawn batches closed ∧
      items <+: reader.pending.map .item ++ drawn.flatMap Drawn.spread := by
  induction h with
  | nil reader session => exact ⟨[], _, _, .nil _ _, List.nil_prefix⟩
  | @cons reader between _ session opened _ item rest hcomes _ ih =>
    obtain ⟨drawn, batches, closed, hreads, hprefix⟩ := ih
    obtain ⟨start, pending⟩ := reader
    cases pending with
    | cons message pending =>
      cases hcomes.unique (comes_of_pending start message pending session)
      exact ⟨drawn, batches, closed, hreads, (List.prefix_cons_inj _).mpr hprefix⟩
    | nil =>
      obtain ⟨hcame, enough, hnext⟩ := hcomes
      obtain ⟨early, hearly, hspread⟩ := reads_of_next (hnext enough (Nat.le_refl _)) hcame
      refine ⟨early ++ drawn, batches, closed, hearly.append hreads, ?_⟩
      rw [List.flatMap_append, hspread]
      exact (List.prefix_cons_inj _).mpr hprefix

/-! ## After the end -/

/-- Nothing is pending, and there are no batches to come. -/
def Exhausted (reader : Messages W) : Prop := reader.pending = [] ∧ reader.batches.context = none

theorem Exhausted.next {reader : Messages W} (h : reader.Exhausted) (patience : Nat)
    (session : Session W Unit) :
    reader.next (patience + 1) session = (.exhausted, reader, session) := by
  obtain ⟨batches, pending⟩ := reader
  obtain ⟨rfl, hnone⟩ := h
  rw [Messages.next, Batches.next_of_none hnone]

theorem exhausted_of_next {patience : Nat} {reader later : Messages W} {last : Session W Unit}
    {drawn : Drawn Message} (h : reader.next patience session = (drawn, later, last))
    (hfinal : drawn.isFinal = true) : later.Exhausted := by
  induction patience generalizing reader session with
  | zero =>
    obtain ⟨batches, _ | ⟨message, pending⟩⟩ := reader
    · cases h
      cases hfinal
    · cases h
      cases hfinal
  | succ patience ih =>
    obtain ⟨batches, _ | ⟨message, pending⟩⟩ := reader
    · rcases hbatches : batches.next (patience + 1) session with ⟨item, between, opened⟩
      rw [next, hbatches] at h
      cases item with
      | item batch => exact ih h
      | failed e =>
        cases h
        exact ⟨rfl, Batches.context_of_comes (Batches.comes_of_next hbatches (by simp)) rfl⟩
      | exhausted =>
        cases h
        exact ⟨rfl, Batches.context_of_comes (Batches.comes_of_next hbatches (by simp)) rfl⟩
      | waiting =>
        cases h
        cases hfinal
    · cases h
      cases hfinal

theorem exhausted_of_reads {reader later : Messages W} {last : Session W Unit}
    {items : List (Drawn Message)} (h : Reads next reader session items later last)
    (hfinal : items.any Drawn.isFinal = true ∨ reader.Exhausted) : later.Exhausted := by
  induction h with
  | nil =>
    rcases hfinal with hfinal | hexhausted
    · cases hfinal
    · exact hexhausted
  | @cons reader between _ session opened _ drawn rest hcomes _ ih =>
    obtain ⟨-, enough, hnext⟩ := hcomes
    rcases hfinal with hfinal | hexhausted
    · cases hdrawn : drawn.isFinal with
      | true => exact ih (.inr (exhausted_of_next (hnext enough (Nat.le_refl _)) hdrawn))
      | false =>
        rw [List.any_cons, hdrawn, Bool.false_or] at hfinal
        exact ih (.inl hfinal)
    · have hsame := hnext (enough + 1) (Nat.le_succ _)
      rw [hexhausted.next] at hsame
      cases hsame
      exact ih (.inr hexhausted)

/--
Wherever a reader of batches stands, a reader of messages made from it yields just the messages of
the batches that were to come, in order, with nothing for an empty batch, and after them the error
or the end. After that it is exhausted for good, and asks nothing of any component.
-/
theorem flattens (batches : Batches W) (session : Session W Unit) :
    (∀ items, (∃ later last, Reads next (ofBatches batches) session items later last) ↔
      ∃ drawn later last, Reads Batches.next batches session drawn later last ∧
        items <+: drawn.flatMap Drawn.spread) ∧
    ∀ items later last, Reads next (ofBatches batches) session items later last →
      items.any Drawn.isFinal = true →
      ∀ patience, later.next (patience + 1) last = (.exhausted, later, last) := by
  refine ⟨fun items => ⟨?_, ?_⟩, ?_⟩
  · rintro ⟨later, last, h⟩
    exact exists_reads h
  · rintro ⟨drawn, later, last, h, more, hitems⟩
    obtain ⟨reader, closed, hreads⟩ := reads_spread h
    rw [← hitems] at hreads
    obtain ⟨between, opened, hfirst, -⟩ := hreads.split
    exact ⟨between, opened, hfirst⟩
  · intro items later last h hfinal patience
    exact (exhausted_of_reads h (.inl hfinal)).next patience last

end Messages

end TraceFlow
