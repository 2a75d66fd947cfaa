import TraceFlow.Messages

/-!
# What readers yield

A reader that is asked for the next item waits as long as it takes. What it yields then does not
depend on the patience with which it is asked, if that is enough. After an error or the end of the
trace a reader is exhausted for good, and nothing is asked of any component any more.
-/

namespace TraceFlow

section

variable {W α R β : Type} {next : Nat → R → Session W α → Drawn β × R × Session W α}

/-- The reader, asked with enough patience, yields something; then it and the session are as
told. -/
def Comes (next : Nat → R → Session W α → Drawn β × R × Session W α) (reader : R)
    (session : Session W α) (outcome : Drawn β × R × Session W α) : Prop :=
  outcome.1 ≠ .waiting ∧
    ∃ enough, ∀ patience, enough ≤ patience → next patience reader session = outcome

/-- What the reader yields, asked once for every item. -/
inductive Reads (next : Nat → R → Session W α → Drawn β × R × Session W α) :
    R → Session W α → List (Drawn β) → R → Session W α → Prop where
  | nil (reader : R) (session : Session W α) : Reads next reader session [] reader session
  | cons {reader between later : R} {session opened last : Session W α} {drawn : Drawn β}
      {items : List (Drawn β)} (h : Comes next reader session (drawn, between, opened))
      (hrest : Reads next between opened items later last) :
      Reads next reader session (drawn :: items) later last

def Drawn.isFinal : Drawn β → Bool
  | .failed _ => true
  | .exhausted => true
  | _ => false

theorem Comes.unique {reader : R} {session : Session W α}
    {outcome other : Drawn β × R × Session W α}
    (h : Comes next reader session outcome) (h' : Comes next reader session other) :
    outcome = other := by
  obtain ⟨-, enough, h⟩ := h
  obtain ⟨-, enough', h'⟩ := h'
  rw [← h (enough + enough') (by omega), h' (enough + enough') (by omega)]

/-- More patience changes nothing, so any patience that was enough tells what comes. -/
theorem comes_of_next {reader : R} {session : Session W α} {outcome : Drawn β × R × Session W α}
    {patience : Nat}
    (hmore : ∀ patience reader session, (next patience reader session).1 ≠ .waiting →
      next (patience + 1) reader session = next patience reader session)
    (h : next patience reader session = outcome) (hcame : outcome.1 ≠ .waiting) :
    Comes next reader session outcome := by
  refine ⟨hcame, patience, fun more hmore' => ?_⟩
  induction hmore' with
  | refl => exact h
  | @step more _ ih =>
    rw [hmore more reader session (by rw [ih]; exact hcame)]
    exact ih

namespace Reads

variable {reader between later : R} {session opened last : Session W α}
  {items more : List (Drawn β)}

theorem append (h : Reads next reader session items between opened)
    (h' : Reads next between opened more later last) :
    Reads next reader session (items ++ more) later last := by
  induction h with
  | nil => exact h'
  | cons hcomes _ ih => exact .cons hcomes (ih h')

theorem split (h : Reads next reader session (items ++ more) later last) :
    ∃ between opened, Reads next reader session items between opened ∧
      Reads next between opened more later last := by
  induction items generalizing reader session with
  | nil => exact ⟨reader, session, .nil _ _, h⟩
  | cons drawn items ih =>
    cases h with
    | cons hcomes hrest =>
      obtain ⟨between, opened, hitems, hmore⟩ := ih hrest
      exact ⟨between, opened, .cons hcomes hitems, hmore⟩

theorem prefix_of_length_le {later' : R} {last' : Session W α}
    (h : Reads next reader session items later last)
    (h' : Reads next reader session more later' last') (hlength : items.length ≤ more.length) :
    items <+: more := by
  induction h generalizing more with
  | nil => exact List.nil_prefix
  | cons hcomes _ ih =>
    cases h' with
    | nil => simp at hlength
    | cons hcomes' hrest =>
      cases hcomes.unique hcomes'
      rw [List.prefix_cons_inj]
      exact ih hrest (by simpa using hlength)

theorem of_comes {reader' : R} {session' : Session W α}
    (h : ∀ outcome, Comes next reader' session' outcome → Comes next reader session outcome)
    (hreads : Reads next reader' session' items later last) :
    ∃ later last, Reads next reader session items later last := by
  cases hreads with
  | nil => exact ⟨reader, session, .nil _ _⟩
  | cons hcomes hrest => exact ⟨later, last, .cons (h _ hcomes) hrest⟩

end Reads

end

/-! ## Patience -/

section

variable {W α : Type}

namespace Context

theorem pull_succ (patience : Nat) (context : Context W α) (session : Session W α)
    (h : (context.pull patience session).1 ≠ .waiting) :
    context.pull (patience + 1) session = context.pull patience session := by
  induction patience generalizing context session with
  | zero => exact absurd rfl h
  | succ patience ih =>
    unfold pull at h ⊢
    split
    · rfl
    · rfl
    · rfl
    · next hrun =>
      simp only [hrun] at h
      exact ih _ _ h

end Context

namespace Batches

theorem draw_succ (patience : Nat) (context : Context W Slot) (session : Session W Slot)
    (h : (draw patience context session).1 ≠ .waiting) :
    draw (patience + 1) context session = draw patience context session := by
  induction patience generalizing context session with
  | zero => exact absurd rfl h
  | succ patience ih =>
    have hsucc := context.pull_succ (patience + 1) session
    rcases hpulled : context.pull (patience + 1) session with ⟨pulled, later, last⟩
    rw [hpulled] at hsucc
    cases pulled with
    | hasMessages =>
      rw [draw, hpulled] at h
      rw [draw, draw, hsucc (by simp), hpulled]
      dsimp only at h ⊢
      cases hslot : last.shared with
      | some batch => rfl
      | none =>
        rw [hslot] at h
        exact ih _ _ h
    | endOfStream => rw [draw, draw, hsucc (by simp), hpulled]
    | failed e => rw [draw, draw, hsucc (by simp), hpulled]
    | waiting =>
      rw [draw, hpulled] at h
      exact absurd rfl h

theorem next_some (patience : Nat) (context : Context W Slot) (slot : Slot)
    (session : Session W Unit) :
    next patience ⟨some context, slot⟩ session =
      match draw patience context (session.sharing slot) with
      | (drawn, context, session) => (drawn, ⟨context, session.shared⟩, session.sharing ()) := rfl

theorem next_succ (patience : Nat) (batches : Batches W) (session : Session W Unit)
    (h : (batches.next patience session).1 ≠ .waiting) :
    batches.next (patience + 1) session = batches.next patience session := by
  obtain ⟨context, slot⟩ := batches
  cases context with
  | none => rfl
  | some context =>
    rw [next_some, next_some]
    rw [draw_succ patience context (session.sharing slot) h]

theorem comes_of_next {batches : Batches W} {session : Session W Unit}
    {outcome : Drawn Batch × Batches W × Session W Unit} {patience : Nat}
    (h : batches.next patience session = outcome) (hcame : outcome.1 ≠ .waiting) :
    Comes next batches session outcome :=
  TraceFlow.comes_of_next next_succ h hcame

/-! ## After the end -/

theorem context_of_draw {patience : Nat} {context : Context W Slot} {session last : Session W Slot}
    {drawn : Drawn Batch} {later : Option (Context W Slot)}
    (h : draw patience context session = (drawn, later, last)) (hfinal : drawn.isFinal = true) :
    later = none := by
  induction patience generalizing context session with
  | zero =>
    cases h
    cases hfinal
  | succ patience ih =>
    unfold draw at h
    split at h
    · split at h
      · cases h
        cases hfinal
      · exact ih h
    · cases h
      rfl
    · cases h
      rfl
    · cases h
      cases hfinal

theorem next_of_none {batches : Batches W} (h : batches.context = none) (patience : Nat)
    (session : Session W Unit) :
    batches.next patience session = (.exhausted, batches, session) := by
  unfold next
  rw [h]

theorem context_of_comes {batches later : Batches W} {session last : Session W Unit}
    {drawn : Drawn Batch} (h : Comes next batches session (drawn, later, last))
    (hfinal : drawn.isFinal = true) : later.context = none := by
  obtain ⟨-, enough, h⟩ := h
  have hnext := h enough (Nat.le_refl _)
  obtain ⟨context, slot⟩ := batches
  cases context with
  | none =>
    cases hnext
    rfl
  | some context =>
    rw [next_some] at hnext
    rcases hdraw : draw enough context (session.sharing slot) with ⟨item, between, opened⟩
    rw [hdraw] at hnext
    cases hnext
    exact context_of_draw hdraw hfinal

theorem comes_exhausted {batches : Batches W} (h : batches.context = none)
    (session : Session W Unit) :
    Comes next batches session (.exhausted, batches, session) :=
  ⟨by simp, 0, fun patience _ => next_of_none h patience session⟩

theorem reads_exhausted {batches : Batches W} (h : batches.context = none)
    (session : Session W Unit) (calls : Nat) :
    Reads next batches session (List.replicate calls .exhausted) batches session := by
  induction calls with
  | zero => exact .nil _ _
  | succ calls ih => exact .cons (comes_exhausted h session) ih

theorem reads_of_none {batches later : Batches W} {session last : Session W Unit}
    {items : List (Drawn Batch)} (hnone : batches.context = none)
    (h : Reads next batches session items later last) : later = batches ∧ last = session := by
  induction h with
  | nil => exact ⟨rfl, rfl⟩
  | cons hcomes _ ih =>
    cases hcomes.unique (comes_exhausted hnone _)
    exact ih hnone

theorem context_of_reads {batches later : Batches W} {session last : Session W Unit}
    {items : List (Drawn Batch)} (h : Reads next batches session items later last)
    (hfinal : items.any Drawn.isFinal = true) : later.context = none := by
  induction h with
  | nil => cases hfinal
  | @cons _ _ _ _ _ _ drawn _ hcomes hrest ih =>
    cases hdrawn : drawn.isFinal with
    | true =>
      have hnone := context_of_comes hcomes hdrawn
      rw [(reads_of_none hnone hrest).1]
      exact hnone
    | false =>
      rw [List.any_cons, hdrawn, Bool.false_or] at hfinal
      exact ih hfinal

end Batches

end

end TraceFlow
