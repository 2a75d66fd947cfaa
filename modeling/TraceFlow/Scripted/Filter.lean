import TraceFlow.Scripted.Iterator

/-!
# Scripted filters
-/

namespace TraceFlow.Scripted

/-- How a filter makes an iterator from those that feed it. -/
inductive Mode where
  | failing (fault : Fault)
  /-- Plays a script, whatever comes in. -/
  | playing (script : Script)
  /-- Passes one of the inputs on. -/
  | passing (input : Nat)
  | joining
  | merging

/-- A filter class. -/
structure FilterSpec where
  name : String
  description : Option String := none
  /-- Why no instance can be made. -/
  failure : Option Fault := none
  inputs : Nat := 1
  outputs : Nat := 1
  /-- The input counts to report after one connection and the next. -/
  reports : List Nat := []
  grows : Bool := false
  /-- Up to how many inputs a growing filter gets; no limit if none is given. -/
  growLimit : Option Nat := none
  mode : Mode := .passing 0

/-- What a filter keeps after input `port` was connected. -/
def FilterSpec.react (spec : FilterSpec) (port : Nat) (state : FilterState) : FilterState :=
  match state.reports with
  | report :: rest => ⟨report, rest⟩
  | [] =>
    let belowLimit := match spec.growLimit with
      | some limit => state.inputs < limit
      | none => true
    if spec.grows && port + 1 = state.inputs && belowLimit then
      { state with inputs := state.inputs + 1 }
    else state

/-- Makes the iterator of one port of an instance. -/
def filterIterator (spec : FilterSpec) (number port : Nat) (upstream : List (Iterator World)) :
    Act World (Iterator World) := do
  note (.filterIterator spec.name number port upstream.length)
  match spec.mode with
  | .failing fault => throw fault
  | .playing script => playing script
  | .joining => joining upstream
  | .merging => merging upstream
  | .passing input =>
    match upstream[input]? with
    | some iterator => return iterator
    | none => throw ⟨"no upstream", []⟩

def FilterSpec.toClass (spec : FilterSpec) : FilterClass World where
  name := spec.name
  description := spec.description
  instantiate params level := do
    let number ← nextInstance
    note (.instantiate spec.name number level params)
    if let some fault := spec.failure then throw fault
    modifyGet fun world =>
      let place := world.filters.size
      ({ inputCount := fun world => (world.filters[place]?.map FilterState.inputs).getD 0
         outputCount := fun _ => spec.outputs
         inputConnected := fun port world =>
          let world := world.note (.inputConnected spec.name number port)
          { world with filters := world.filters.modify place (spec.react port) }
         iterator := filterIterator spec number },
        { world with filters := world.filters.push ⟨spec.inputs, spec.reports⟩ })

end TraceFlow.Scripted
