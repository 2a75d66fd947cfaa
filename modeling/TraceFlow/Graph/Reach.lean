import TraceFlow.Graph.Basic

/-!
# Which components lead to which

Before a connection is made, the graph is searched along the connections that there are: a new one
must not close a cycle.
-/

namespace TraceFlow

/-- Where the connections out of a component lead, in the order of the connections. -/
def successors (connections : List Connection) (id : ComponentId) : List ComponentId :=
  connections.filterMap fun c =>
    if c.upstream.component = id then some c.downstream.component else none

theorem length_successors_le (connections : List Connection) (id : ComponentId) :
    (successors connections id).length ≤ connections.length :=
  List.length_filterMap_le ..

/--
A search for `target` from the components on the stack. Components not seen yet are looked at once,
so either the stack gets shorter or, for one component less unseen, longer by the connections.
-/
def searchFrom (connections : List Connection) (target : ComponentId) (unseen : List ComponentId)
    (stack : List ComponentId) : Bool :=
  match stack with
  | [] => false
  | current :: rest =>
    if current = target then true
    else if _seen : current ∈ unseen then
      searchFrom connections target (unseen.erase current) (successors connections current ++ rest)
    else searchFrom connections target unseen rest
termination_by unseen.length * (connections.length + 1) + stack.length
decreasing_by
  · have hpos := List.length_pos_of_mem _seen
    have hle := length_successors_le connections current
    obtain ⟨n, hn⟩ : ∃ n, unseen.length = n + 1 := ⟨unseen.length - 1, by omega⟩
    have herase : (unseen.erase current).length = n := by
      rw [List.length_erase, if_pos _seen, hn, Nat.add_sub_cancel]
    rw [herase, hn, Nat.succ_mul, List.length_append, List.length_cons]
    omega
  · simp

namespace Graph

variable {W α : Type}

def ids (g : Graph W α) : List ComponentId :=
  (List.range g.components.length).map ComponentId.mk

/-- Some path of connections leads from one component to the other; the empty path counts. -/
def leadsTo (g : Graph W α) (first last : ComponentId) : Bool :=
  searchFrom g.connections last g.ids [first]

end Graph

end TraceFlow
