import TraceFlow.Proofs.Draws

/-!
# What an iterator answers

An iterator answers with batches, or that there is nothing yet, up to an error or its end. What a
reader of batches is to yield for these answers is told here, before any graph comes in.
-/

namespace TraceFlow

variable {W : Type}

def isLast : Except Fault Next → Bool
  | .ok .ended => true
  | .error _ => true
  | _ => false

namespace Iterator

/-- So many answers of an iterator, asked from a world on. -/
def answers (upstream : Iterator W) : Nat → W → List (Except Fault Next)
  | 0, _ => []
  | count + 1, world =>
    (upstream.next.on world).1 :: upstream.answers count (upstream.next.on world).2

/-- Unless it is over, the iterator does not answer for ever that there is nothing yet. -/
def NeverStalls (upstream : Iterator W) (world : W) : Prop :=
  ∀ count, (upstream.answers count world).any isLast = true ∨
    ∃ more, ∃ answer ∈ (upstream.answers more world).drop count, answer ≠ .ok .again

/-- Asked again as long as there is nothing yet, the iterator answers so in the end. -/
inductive Settles (upstream : Iterator W) : W → Except Fault Next → W → Prop where
  | now {world : W} (h : (upstream.next.on world).1 ≠ .ok .again) :
      Settles upstream world (upstream.next.on world).1 (upstream.next.on world).2
  | later {world last : W} {answer : Except Fault Next}
      (h : (upstream.next.on world).1 = .ok .again)
      (hlater : Settles upstream (upstream.next.on world).2 answer last) :
      Settles upstream world answer last

end Iterator

/-- What a reader yields for an answer of the iterator behind the sink of that name. -/
def drawnFor (sinkName : String) : Except Fault Next → Drawn Batch
  | .ok (.batch messages) => .item messages
  | .ok .again => .waiting
  | .ok .ended => .exhausted
  | .error fault => .failed (.execution (.sink sinkName fault))

theorem drawnFor_ne_waiting (sinkName : String) {answer : Except Fault Next}
    (h : answer ≠ .ok .again) : drawnFor sinkName answer ≠ .waiting := by
  rcases answer with fault | ⟨messages⟩ | _ | _
  · simp [drawnFor]
  · simp [drawnFor]
  · exact absurd rfl h
  · simp [drawnFor]

/-- What a reader yields for all these answers: nothing for those that there is nothing yet, and
nothing after the last. -/
def yielded (sinkName : String) : List (Except Fault Next) → List (Drawn Batch)
  | [] => []
  | .ok .again :: rest => yielded sinkName rest
  | answer :: rest =>
    drawnFor sinkName answer :: if isLast answer then [] else yielded sinkName rest

theorem yielded_append {answers : List (Except Fault Next)} (h : answers.any isLast = false)
    (sinkName : String) (more : List (Except Fault Next)) :
    yielded sinkName (answers ++ more) = yielded sinkName answers ++ yielded sinkName more := by
  induction answers with
  | nil => rfl
  | cons answer rest ih =>
    rw [List.any_cons, Bool.or_eq_false_iff] at h
    rcases answer with fault | ⟨messages⟩ | _ | _
    · cases h.1
    · simp [yielded, isLast, ih h.2]
    · simp [yielded, ih h.2]
    · cases h.1

theorem any_isFinal_yielded (sinkName : String) (answers : List (Except Fault Next)) :
    (yielded sinkName answers).any Drawn.isFinal = answers.any isLast := by
  induction answers with
  | nil => rfl
  | cons answer rest ih =>
    rcases answer with fault | ⟨messages⟩ | _ | _
    all_goals simp [yielded, drawnFor, Drawn.isFinal, isLast, ih]

theorem yielded_ne_nil {answers : List (Except Fault Next)} {answer : Except Fault Next}
    (hmem : answer ∈ answers) (h : answer ≠ .ok .again) (sinkName : String) :
    yielded sinkName answers ≠ [] := by
  induction answers with
  | nil => cases hmem
  | cons first rest ih =>
    rcases first with fault | ⟨messages⟩ | _ | _
    · simp [yielded]
    · simp [yielded]
    · rcases List.mem_cons.mp hmem with rfl | hrest
      · exact absurd rfl h
      · exact ih hrest
    · simp [yielded]

namespace Iterator

variable {upstream : Iterator W}

@[simp] theorem length_answers (count : Nat) (world : W) :
    (upstream.answers count world).length = count := by
  induction count generalizing world with
  | zero => rfl
  | succ count ih => simp [answers, ih]

theorem take_answers {count more : Nat} (h : count ≤ more) (world : W) :
    (upstream.answers more world).take count = upstream.answers count world := by
  induction more generalizing count world with
  | zero =>
    cases Nat.le_zero.mp h
    rfl
  | succ more ih =>
    cases count with
    | zero => rfl
    | succ count => simp [answers, ih (Nat.le_of_succ_le_succ h)]

theorem Settles.answer_ne {world last : W} {answer : Except Fault Next}
    (h : upstream.Settles world answer last) : answer ≠ .ok .again := by
  induction h with
  | now hnow => exact hnow
  | later _ _ ih => exact ih

theorem NeverStalls.exists_count {world : W} (h : upstream.NeverStalls world) (sinkName : String)
    (calls : Nat) : ∃ count, calls ≤ (yielded sinkName (upstream.answers count world)).length ∨
      (upstream.answers count world).any isLast = true := by
  induction calls with
  | zero => exact ⟨0, .inl (Nat.zero_le _)⟩
  | succ calls ih =>
    obtain ⟨count, hcalls | hover⟩ := ih
    -- Among the answers that follow there is one more that is yielded.
    · rcases h count with hover | ⟨more, answer, hmem, hanswer⟩
      · exact ⟨count, .inr hover⟩
      · refine ⟨more, ?_⟩
        have hlength := List.length_pos_of_mem hmem
        rw [List.length_drop, length_answers] at hlength
        have hsplit := List.take_append_drop count (upstream.answers more world)
        rw [take_answers (by omega)] at hsplit
        cases hover : (upstream.answers count world).any isLast with
        | true => exact .inr (by rw [← hsplit, List.any_append, hover]; rfl)
        | false =>
          have hpos := List.length_pos_iff.mpr (yielded_ne_nil hmem hanswer sinkName)
          refine .inl ?_
          rw [← hsplit, yielded_append hover, List.length_append]
          omega
    · exact ⟨count, .inr hover⟩

theorem yielded_answers_cases (upstream : Iterator W) (sinkName : String) (count : Nat)
    (world : W) :
    yielded sinkName (upstream.answers count world) = [] ∨
    ∃ answer last, upstream.Settles world answer last ∧
      (isLast answer = true ∧
          yielded sinkName (upstream.answers count world) = [drawnFor sinkName answer] ∨
        ∃ messages left, answer = .ok (.batch messages) ∧ left < count ∧
          yielded sinkName (upstream.answers count world) =
            .item messages :: yielded sinkName (upstream.answers left last)) := by
  induction count generalizing world with
  | zero => exact .inl rfl
  | succ count ih =>
    have hnow : (upstream.next.on world).1 ≠ .ok .again →
        upstream.Settles world (upstream.next.on world).1 (upstream.next.on world).2 := .now
    rw [answers]
    rcases hanswer : (upstream.next.on world).1 with fault | ⟨messages⟩ | _ | _
    · rw [hanswer] at hnow
      exact .inr ⟨_, _, hnow (by simp), .inl ⟨rfl, by simp [yielded, isLast]⟩⟩
    · rw [hanswer] at hnow
      refine .inr ⟨_, _, hnow (by simp), .inr ⟨messages, count, rfl, Nat.lt_succ_self _, ?_⟩⟩
      simp [yielded, isLast, drawnFor]
    · rcases ih (upstream.next.on world).2 with hnone | ⟨answer, last, hsettles, hcases⟩
      · exact .inl hnone
      · refine .inr ⟨answer, last, .later hanswer hsettles, ?_⟩
        rcases hcases with hover | ⟨messages, left, hbatch, hleft, hyielded⟩
        · exact .inl hover
        · exact .inr ⟨messages, left, hbatch, Nat.lt_succ_of_lt hleft, hyielded⟩
    · rw [hanswer] at hnow
      exact .inr ⟨_, _, hnow (by simp), .inl ⟨rfl, by simp [yielded, isLast]⟩⟩

end Iterator

end TraceFlow
