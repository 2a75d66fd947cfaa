import Mathlib.Data.List.Induction
import TraceFlow.Error

/-!
# Contexts hide nothing

Whoever passes an error on may say what was being done. However often that happens, and whichever
way it is said, the contexts stand before the text of the error, the latest first, and the error is
found below them with all that lies below itself.
-/

namespace TraceFlow

namespace TraceError

/-! ## Errors within contexts -/

/-- The error with contexts added one after the other. -/
def within (e : TraceError) (contexts : List String) : TraceError :=
  contexts.foldl (fun inner context => .withContext context inner) e

theorem within_concat (e : TraceError) (contexts : List String) (context : String) :
    e.within (contexts ++ [context]) = .withContext context (e.within contexts) := by
  simp [within]

theorem root_within (e : TraceError) (contexts : List String) :
    (e.within contexts).root = e.root := by
  induction contexts using List.reverseRecOn with
  | nil => rfl
  | append_singleton contexts context ih =>
    rw [within_concat]
    exact ih

theorem message_within (e : TraceError) (contexts : List String) :
    (e.within contexts).message =
      String.join (contexts.reverse.map (· ++ ": ")) ++ e.message := by
  induction contexts using List.reverseRecOn with
  | nil => simp [within]
  | append_singleton contexts context ih =>
    rw [within_concat, List.reverse_concat, List.map_cons, String.join_cons, String.append_assoc]
    rw [← ih]
    rfl

theorem chain_within (e : TraceError) (contexts : List String) :
    (e.within contexts).chain =
      (List.range contexts.length).reverse.map
        (fun count => (e.within (contexts.take count)).message) ++ e.chain := by
  induction contexts using List.reverseRecOn with
  | nil => simp [within]
  | append_singleton contexts context ih =>
    have houter : (contexts ++ [context]).take contexts.length = contexts := by simp
    have hinner : ∀ count ∈ (List.range contexts.length).reverse,
        (e.within ((contexts ++ [context]).take count)).message =
          (e.within (contexts.take count)).message := by
      intro count hcount
      have hlt : count < contexts.length := by simpa using hcount
      rw [List.take_append_of_le_length (by omega)]
    rw [List.length_append, List.length_singleton, List.range_succ, List.reverse_concat,
      List.map_cons, houter, List.map_congr_left hinner, List.cons_append, ← ih, within_concat,
      chain]

theorem exists_within_root (e : TraceError) : ∃ contexts, e = e.root.within contexts := by
  induction e with
  | withContext context inner ih =>
    obtain ⟨contexts, hinner⟩ := ih
    refine ⟨contexts ++ [context], ?_⟩
    rw [within_concat, root, ← hinner]
  | _ => exact ⟨[], rfl⟩

theorem root_ne_withContext (e : TraceError) (context : String) (inner : TraceError) :
    e.root ≠ .withContext context inner := by
  induction e with
  | withContext _ _ ih => exact ih
  | _ => exact nofun

/-- Contexts stand before an error and hide nothing of it. -/
structure Shown (e : TraceError) (contexts : List String) : Prop where
  root : (e.within contexts).root = e.root
  message : (e.within contexts).message =
    String.join (contexts.reverse.map (· ++ ": ")) ++ e.message
  /-- What lies below are the same error with ever fewer of the contexts, and what lies below it. -/
  chain : (e.within contexts).chain =
    (List.range contexts.length).reverse.map
      (fun count => (e.within (contexts.take count)).message) ++ e.chain

theorem shown (e : TraceError) (contexts : List String) : e.Shown contexts :=
  ⟨e.root_within contexts, e.message_within contexts, e.chain_within contexts⟩

end TraceError

/-! ## Adding contexts to results -/

section

variable {m : Type → Type} {β : Type}

/-- A way of adding a context to a result. -/
inductive Note (m : Type → Type) where
  /-- To the error that the result is, if it is one. -/
  | onError (context : String)
  | onResult (context : String)
  /-- The context is made only if the result is an error. -/
  | made (make : m String)

variable [Monad m]

namespace Note

def text : Note m → m String
  | onError context => pure context
  | onResult context => pure context
  | made make => make

def addTo (result : Except TraceError β) : Note m → m (Except TraceError β)
  | onError context => pure (result.mapError (.withContext context))
  | onResult context => pure (TraceError.addContext context result)
  | made make => TraceError.addContextBy make result

def addAll (notes : List (Note m)) (result : Except TraceError β) : m (Except TraceError β) :=
  notes.foldlM (fun result note => note.addTo result) result

theorem addAll_cons (note : Note m) (notes : List (Note m)) (result : Except TraceError β) :
    addAll (note :: notes) result = note.addTo result >>= addAll notes :=
  List.foldlM_cons

theorem addTo_ok (note : Note m) (value : β) : note.addTo (.ok value) = pure (.ok value) := by
  cases note <;> rfl

variable [LawfulMonad m]

theorem addTo_error (note : Note m) (e : TraceError) :
    note.addTo (.error e : Except TraceError β) =
      (fun context => .error (.withContext context e)) <$> note.text := by
  cases note with
  | made make => simp [addTo, text, TraceError.addContextBy]
  | onError context => simp [addTo, text, Except.mapError]
  | onResult context => simp [addTo, text, TraceError.addContext]

theorem addAll_error (notes : List (Note m)) (e : TraceError) :
    addAll notes (.error e : Except TraceError β) =
      (fun contexts => .error (e.within contexts)) <$> notes.mapM text := by
  induction notes generalizing e with
  | nil => simp [addAll, TraceError.within]
  | cons note notes ih =>
    rw [addAll_cons, addTo_error, List.mapM_cons]
    simp [ih, TraceError.within]

theorem addAll_ok (notes : List (Note m)) (value : β) :
    addAll notes (.ok value) = pure (.ok value) := by
  induction notes with
  | nil => rfl
  | cons note notes ih => rw [addAll_cons, addTo_ok, pure_bind, ih]

end Note

theorem addContextBy_pure [LawfulMonad m] (context : String) (result : Except TraceError β) :
    TraceError.addContextBy (m := m) (pure context) result =
      pure (TraceError.addContext context result) := by
  cases result with
  | error e => simp [TraceError.addContextBy, TraceError.addContext]
  | ok value => rfl

theorem addContext_graph (context : String) (result : Except GraphError β) :
    GraphError.addContext context result =
      TraceError.addContext context (result.mapError .execution) := by
  cases result <;> rfl

theorem addContextBy_graph (make : m String) (result : Except GraphError β) :
    GraphError.addContextBy make result =
      TraceError.addContextBy make (result.mapError .execution) := by
  cases result <;> rfl

end

/--
An error that has been given contexts, in whatever ways, shows them all and has the root, the text
and what lies below it as before; every error is its own root within some contexts. A result that is
no error stays as it is, and no context is made for it. The error of a graph is one of execution
once a context is added to it.
-/
theorem contexts_hide_nothing (m : Type → Type) [Monad m] [LawfulMonad m] (β : Type) :
    (∀ (e : TraceError) contexts, e.Shown contexts) ∧
    (∀ e : TraceError, (∃ contexts, e = e.root.within contexts) ∧
      ∀ context inner, e.root ≠ .withContext context inner) ∧
    (∀ (notes : List (Note m)) e, Note.addAll notes (.error e : Except TraceError β) =
      (fun contexts => .error (e.within contexts)) <$> notes.mapM Note.text) ∧
    (∀ (notes : List (Note m)) (value : β),
      Note.addAll notes (.ok value) = pure (.ok value)) ∧
    (∀ context (result : Except TraceError β),
      TraceError.addContextBy (m := m) (pure context) result =
        pure (TraceError.addContext context result)) ∧
    (∀ context (result : Except GraphError β), GraphError.addContext context result =
      TraceError.addContext context (result.mapError .execution)) ∧
    ∀ (make : m String) (result : Except GraphError β), GraphError.addContextBy make result =
      TraceError.addContextBy make (result.mapError .execution) :=
  ⟨TraceError.shown, fun e => ⟨e.exists_within_root, e.root_ne_withContext⟩, Note.addAll_error,
    Note.addAll_ok, addContextBy_pure, addContext_graph, addContextBy_graph⟩

def counting : List (Note (StateM Nat)) :=
  [.onResult "pull", .made do modify (· + 1); return "play"]

theorem contexts_hide_nothing_counting :
    LawfulMonad (StateM Nat) ∧
      (Note.addAll counting (.error (.execution .faulted) : Except TraceError Unit)).run 0 =
        (.error ((TraceError.execution .faulted).within ["pull", "play"]), 1) ∧
      ((TraceError.execution .faulted).within ["pull", "play"]).message =
        "play: pull: Execution error: Graph is faulted after an earlier error" ∧
      (Note.addAll counting (.ok () : Except TraceError Unit)).run 0 = (.ok (), 0) := by
  obtain ⟨hshown, -, herror, hok, -⟩ := contexts_hide_nothing (StateM Nat) Unit
  refine ⟨inferInstance, ?_, ?_, ?_⟩
  · rw [herror]
    rfl
  · rw [(hshown _ _).message]
    decide
  · rw [hok]
    rfl

end TraceFlow
