/-
# Route parameters

The parameter types of `tosca::parameters`, which is not among the sources: what kind
of value a route parameter takes, the values themselves, and the maps from parameter
names to either. The controller only asks whether a route declares parameters; the
firmware parses values of a declared kind out of a request. Every map here is keyed by
parameter name and keeps its insertion order, as the `indexmap` collections `tosca`
builds on do; the bounds and defaults a kind carries are never read and are left out.
-/

import Mathlib.Data.List.Basic

namespace Tosca

/-- `ParameterKind`: the type of value a parameter takes. -/
inductive ParameterKind
  | bool | u8 | u16 | u32 | u64 | f32 | f64
  | rangeU32 | rangeU64 | rangeF64
  | charsSequence
  deriving DecidableEq, Repr

/-- `ParameterValue`: a parameter's value. A float is held as its IEEE-754 bit pattern. -/
inductive ParameterValue
  | bool (value : Bool)
  | u8 (value : UInt8)
  | u16 (value : UInt16)
  | u32 (value : UInt32)
  | u64 (value : UInt64)
  | f32 (bits : UInt32)
  | f64 (bits : UInt64)
  | charsSequence (value : String)
  deriving DecidableEq, Repr

/-- `ParameterPayload`: a parsed value together with the kind it was parsed as. -/
structure ParameterPayload where
  kind : ParameterKind
  value : ParameterValue
  deriving DecidableEq, Repr

/-- An insertion-ordered map keyed by parameter name: `insert` replaces the value of a
name already present and appends a new name at the end. -/
def insertByName {β : Type} (entries : List (String × β)) (name : String) (value : β) :
    List (String × β) :=
  if entries.any (·.1 == name) then
    entries.map fun entry => if entry.1 == name then (name, value) else entry
  else entries ++ [(name, value)]

/-- `Parameters`: the parameters a route declares, by name, in declaration order. -/
structure Parameters where
  entries : List (String × ParameterKind)
  /-- A name is declared once: this is a map. -/
  names_nodup : (entries.map Prod.fst).Nodup
  deriving DecidableEq

/-- `ParametersValues`: values sent to a device, by parameter name. -/
abbrev ParametersValues := List (String × ParameterValue)

/-- `ParametersPayloads`: the payloads a device handler receives, by parameter name. -/
abbrev ParametersPayloads := List (String × ParameterPayload)

namespace Parameters

/-- `is_empty()`. -/
def isEmpty (p : Parameters) : Bool := p.entries.isEmpty

/-- `get(name)`. -/
def get (p : Parameters) (name : String) : Option ParameterKind := p.entries.lookup name

/-- No parameters. -/
def empty : Parameters := ⟨[], List.nodup_nil⟩

end Parameters

/-- Appending a name not yet present appends an entry. -/
theorem insertByName_of_fresh {β : Type} {entries : List (String × β)} {name : String}
    {value : β} (fresh : name ∉ entries.map Prod.fst) :
    insertByName entries name value = entries ++ [(name, value)] := by
  have absent : entries.any (·.1 == name) = false := by
    simp only [List.any_eq_false, beq_iff_eq]
    rintro ⟨a, b⟩ mem rfl
    exact fresh (List.mem_map_of_mem Prod.fst mem)
  simp [insertByName, absent]

end Tosca
