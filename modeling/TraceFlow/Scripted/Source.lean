import TraceFlow.Scripted.Iterator

/-!
# Scripted sources
-/

namespace TraceFlow.Scripted

/-- How an instance of a source behaves. -/
structure SourceBody where
  /-- Why no instance can be made. -/
  failure : Option Fault := none
  outputs : Nat := 1
  /-- Per output port, the script that its iterators play, or why there is none. -/
  scripts : List (Except Fault Script) := []
  /-- Every port gives out one iterator only. -/
  once : Bool := false

/-- A source class; its first text parameter may choose another body. -/
structure SourceSpec where
  name : String
  description : Option String := none
  body : SourceBody
  variants : List (String × SourceBody) := []

/-- The text at the head of the first parameter that is a list with a text at its head. -/
def leadingText (params : Params) : Option String :=
  params.entries.findSome? fun (_, value) =>
    match value with
    | .array (.string text :: _) => some text
    | _ => none

def SourceSpec.bodyFor (spec : SourceSpec) (params : Params) : SourceBody :=
  match leadingText params with
  | none => spec.body
  | some text => ((spec.variants.find? (·.1 = text)).map Prod.snd).getD spec.body

/-- Makes the iterator of one port of an instance. -/
def sourceIterator (spec : SourceSpec) (body : SourceBody) (number place port : Nat) :
    Act World (Iterator World) := do
  note (.sourceIterator spec.name number port)
  let asked := (← get).asked.getD place []
  if body.once && asked.contains port then
    throw ⟨s!"no stream behind output port {port}", []⟩
  modify fun world => { world with asked := world.asked.modify place (port :: ·) }
  match body.scripts[port]? with
  | none => playing []
  | some (.ok script) => playing script
  | some (.error fault) => throw fault

def SourceSpec.toClass (spec : SourceSpec) : SourceClass World where
  name := spec.name
  description := spec.description
  instantiate params level := do
    let number ← nextInstance
    note (.instantiate spec.name number level params)
    let body := spec.bodyFor params
    if let some fault := body.failure then throw fault
    modifyGet fun world =>
      let place := world.asked.size
      ({ outputCount := fun _ => body.outputs
         iterator := sourceIterator spec body number place },
        { world with asked := world.asked.push [] })

end TraceFlow.Scripted
