import TraceFlow.Proofs.Turns

/-!
# What the calls tell about the queue

The calls of the sinks to consume, in order, tell what has become of the queue: those that ended
have left it, and whoever stands before a sink is fed before that sink is fed again.
-/

namespace TraceFlow

variable {W : Type}

def Hook.fed? : Hook W → Option ComponentId
  | .consume sink _ _ => some sink
  | _ => none

def Hook.ended? : Hook W → Option ComponentId
  | .consume sink _ (.ok .ended) => some sink
  | _ => none

def fedIn (calls : List (Hook W)) : List ComponentId := calls.filterMap Hook.fed?

def endedIn (calls : List (Hook W)) : List ComponentId := calls.filterMap Hook.ended?

@[simp] theorem fedIn_append (calls more : List (Hook W)) :
    fedIn (calls ++ more) = fedIn calls ++ fedIn more := List.filterMap_append

@[simp] theorem fedIn_consume (id : ComponentId) (upstream : Iterator W)
    (answer : Except Fault Status) (calls : List (Hook W)) :
    fedIn (.consume id upstream answer :: calls) = id :: fedIn calls := rfl

@[simp] theorem endedIn_append (calls more : List (Hook W)) :
    endedIn (calls ++ more) = endedIn calls ++ endedIn more := List.filterMap_append

theorem endedIn_cons_of_ne {id : ComponentId} {upstream : Iterator W}
    {answer : Except Fault Status} (h : answer ≠ .ok .ended) (calls : List (Hook W)) :
    endedIn (.consume id upstream answer :: calls) = endedIn calls := by
  refine List.filterMap_cons_none ?_
  unfold Hook.ended?
  split
  · next heq =>
    cases heq
    exact absurd rfl h
  · rfl

namespace Graph

namespace Turns

variable {before after : List ComponentId} {calls more : List (Hook W)}

theorem eq_of_nil (h : Turns (W := W) before [] after) : after = before := by
  cases h
  rfl

theorem append {between : List ComponentId} (h : Turns before calls between)
    (h' : Turns between more after) : Turns before (calls ++ more) after := by
  induction h with
  | none => exact h'
  | stays hgoing _ ih => exact .stays hgoing (ih h')
  | leaves _ ih => exact .leaves (ih h')

theorem split (h : Turns before (calls ++ more) after) :
    ∃ between, Turns before calls between ∧ Turns between more after := by
  induction calls generalizing before with
  | nil => exact ⟨before, .none _, h⟩
  | cons call rest ih =>
    cases h with
    | stays hgoing h =>
      obtain ⟨between, hfirst, hlast⟩ := ih h
      exact ⟨between, .stays hgoing hfirst, hlast⟩
    | leaves h =>
      obtain ⟨between, hfirst, hlast⟩ := ih h
      exact ⟨between, .leaves hfirst, hlast⟩

theorem perm (h : Turns before calls after) : (endedIn calls ++ after).Perm before := by
  induction h with
  | none queue => exact .refl queue
  | stays hgoing _ ih =>
    rw [endedIn_cons_of_ne hgoing]
    exact ih.trans (List.perm_append_singleton _ _)
  | leaves _ ih => exact ih.cons _

theorem nodup (h : Turns before calls after) (hnodup : before.Nodup) : after.Nodup :=
  (List.nodup_append.mp (h.perm.nodup_iff.mpr hnodup)).2.1

theorem mem_iff (h : Turns before calls after) (hnodup : before.Nodup) {id : ComponentId} :
    id ∈ after ↔ id ∈ before ∧ id ∉ endedIn calls := by
  have hboth := h.perm.nodup_iff.mpr hnodup
  rw [← h.perm.mem_iff, List.mem_append]
  constructor
  · intro hafter
    exact ⟨.inr hafter, fun hended => (List.nodup_append.mp hboth).2.2 id hended id hafter rfl⟩
  · rintro ⟨hended | hafter, hnot⟩
    · exact absurd hended hnot
    · exact hafter

theorem consume_of_mem (h : Turns before calls after) {hook : Hook W} (hmem : hook ∈ calls) :
    ∃ id ∈ before, ∃ upstream answer, hook = .consume id upstream answer := by
  induction h with
  | none => cases hmem
  | @stays id rest _ _ _ _ _ _ ih =>
    rcases List.mem_cons.mp hmem with rfl | hlater
    · exact ⟨id, List.mem_cons_self, _, _, rfl⟩
    · obtain ⟨other, hother, hconsume⟩ := ih hlater
      refine ⟨other, ?_, hconsume⟩
      simpa [or_comm] using hother
  | @leaves id rest _ _ _ _ ih =>
    rcases List.mem_cons.mp hmem with rfl | hlater
    · exact ⟨id, List.mem_cons_self, _, _, rfl⟩
    · obtain ⟨other, hother, hconsume⟩ := ih hlater
      exact ⟨other, List.mem_cons_of_mem _ hother, hconsume⟩

theorem fedIn_subset (h : Turns before calls after) : fedIn calls ⊆ before := by
  intro id hid
  obtain ⟨hook, hmem, hfed⟩ := List.mem_filterMap.mp hid
  obtain ⟨other, hother, _, _, rfl⟩ := h.consume_of_mem hmem
  cases hfed
  exact hother

theorem not_fed_of_ended {id : ComponentId} {upstream : Iterator W}
    (h : Turns before (calls ++ .consume id upstream (.ok .ended) :: more) after)
    (hnodup : before.Nodup) : id ∉ fedIn more := by
  obtain ⟨between, hfirst, hrest⟩ := h.split
  have hbetween := hfirst.nodup hnodup
  cases hrest with
  | stays hgoing => exact absurd rfl hgoing
  | leaves hlast => exact fun hfed => (List.nodup_cons.mp hbetween).1 (hlast.fedIn_subset hfed)

theorem fedIn_of_not_fed {ahead behind : List ComponentId} {id : ComponentId}
    (h : Turns (ahead ++ id :: behind) calls after) (hnot : id ∉ fedIn calls) :
    ∃ left behind', ahead = fedIn calls ++ left ∧ after = left ++ id :: behind' := by
  induction calls generalizing ahead behind with
  | nil => exact ⟨ahead, behind, (List.nil_append _).symm, h.eq_of_nil⟩
  | cons call rest ih =>
    cases ahead with
    | nil =>
      -- The sink itself would be fed first.
      rw [List.nil_append] at h
      cases h with
      | stays => exact absurd List.mem_cons_self hnot
      | leaves => exact absurd List.mem_cons_self hnot
    | cons first ahead =>
      rw [List.cons_append] at h
      cases h with
      | stays hgoing h =>
        rw [fedIn_consume, List.mem_cons, not_or] at hnot
        rw [List.append_assoc, List.cons_append] at h
        obtain ⟨left, behind', rfl, hafter⟩ := ih h hnot.2
        exact ⟨left, behind', rfl, hafter⟩
      | leaves h =>
        rw [fedIn_consume, List.mem_cons, not_or] at hnot
        obtain ⟨left, behind', rfl, hafter⟩ := ih h hnot.2
        exact ⟨left, behind', rfl, hafter⟩

/-- Between two turns of a sink, those fed are the others in the queue, in their order. -/
theorem fedIn_between {id : ComponentId} {first last : Iterator W}
    {answer answer' : Except Fault Status} {between : List (Hook W)}
    (h : Turns before (calls ++ .consume id first answer :: (between ++
      .consume id last answer' :: more)) after)
    (hnodup : before.Nodup) (hnot : id ∉ fedIn between) :
    ∃ queue, Turns before calls queue ∧ queue = id :: fedIn between := by
  obtain ⟨queue, hfirst, hrest⟩ := h.split
  have hqueue := hfirst.nodup hnodup
  have hhead : ∃ others, queue = id :: others := by cases hrest <;> exact ⟨_, rfl⟩
  obtain ⟨others, rfl⟩ := hhead
  have hothers : id ∉ others := (List.nodup_cons.mp hqueue).1
  cases hrest with
  | leaves h =>
    refine absurd (h.fedIn_subset ?_) hothers
    simp
  | stays _ h =>
    obtain ⟨later, hbetween, hlast⟩ := h.split
    obtain ⟨left, behind, hleft, hlater⟩ := fedIn_of_not_fed hbetween hnot
    -- Its turn comes only when nobody is left before it.
    have hnone : left = [] := by
      cases left with
      | nil => rfl
      | cons other left =>
        have hself : other = id := by
          rw [hlater] at hlast
          cases hlast <;> rfl
        subst hself
        exact absurd (by rw [hleft]; simp) hothers
    rw [hnone, List.append_nil] at hleft
    exact ⟨_, hfirst, by rw [hleft]⟩

end Turns

end Graph

end TraceFlow
