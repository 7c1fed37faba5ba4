import WalCheckpoint.Value

namespace WalCheckpoint.Config

/-! Configurations that are merged in place. A section is a mapping directly within mappings.
Merging takes over a section that is not there yet as it stands, without a copy: it then
belongs to both, and a later merge into it shows in the configuration it came from. -/

/-- What a section holds under a key. A nested section is named by the configuration it came
from, since its place is known. -/
inductive Slot where
  | leaf (value : Value)
  | nested (owner : Nat)
  deriving DecidableEq, Inhabited

abbrev Section := Keyed Slot

/-- The sections which the configurations brought to one place, and below them, key by key,
those one level deeper. -/
inductive Layers where
  | mk (sections : List (Nat × Section)) (below : List (Value × Layers))
  deriving Inhabited

namespace Layers

def empty : Layers := ⟨[], []⟩

def sectionOf (sections : List (Nat × Section)) (owner : Nat) : Section :=
  ((sections.find? fun entry => entry.1 == owner).map Prod.snd).getD []

def setSection (owner : Nat) (held : Section) : List (Nat × Section) → List (Nat × Section)
  | [] => [(owner, held)]
  | (owner', held') :: rest =>
      if owner' = owner then (owner, held) :: rest
      else (owner', held') :: setSection owner held rest

def modifyBelow (key : Value) (f : Layers → Layers) :
    List (Value × Layers) → List (Value × Layers)
  | [] => [(key, f empty)]
  | (key', layers) :: rest =>
      if key'.sameKey key then (key', f layers) :: rest
      else (key', layers) :: modifyBelow key f rest

def fill (owner : Nat) (key : Value) (slot : Slot) : Layers → Layers
  | ⟨sections, below⟩ =>
      ⟨setSection owner (Keyed.insert key slot (sectionOf sections owner)) sections, below⟩

def descend (key : Value) (f : Layers → Layers) : Layers → Layers
  | ⟨sections, below⟩ => ⟨sections, modifyBelow key f below⟩

mutual
def addValue (owner : Nat) (key : Value) : Value → Layers → Layers
  | .map entries, layers =>
      (layers.fill owner key (.nested owner)).descend key (add owner entries)
  | value, layers => layers.fill owner key (.leaf value)
termination_by structural value => value

/-- Brings in the sections of one configuration. -/
def add (owner : Nat) : List (Value × Value) → Layers → Layers
  | [], layers => layers
  | (key, value) :: rest, layers => add owner rest (addValue owner key value layers)
termination_by structural entries => entries
end

/-- Two sections under one key are not exchanged: the one that is there stays and is merged
into. -/
def adopt (held upper : Section) : Section :=
  upper.foldl
    (fun held (key, slot) =>
      match Keyed.get? held key, slot with
      | some (.nested _), .nested _ => held
      | _, _ => Keyed.insert key slot held)
    held

mutual
/-- Merges the section of one owner into the section of another at the same place. -/
def merge (target upper : Nat) : Layers → Layers
  | ⟨sections, below⟩ =>
      let held := sectionOf sections target
      let laid := sectionOf sections upper
      ⟨setSection target (adopt held laid) sections, mergeBelow held laid below⟩
termination_by structural layers => layers

def mergeBelow (held laid : Section) : List (Value × Layers) → List (Value × Layers)
  | [] => []
  | (key, layers) :: rest =>
      let merged :=
        match Keyed.get? held key, Keyed.get? laid key with
        | some (.nested target), some (.nested upper) => merge target upper layers
        | _, _ => layers
      (key, merged) :: mergeBelow held laid rest
termination_by structural below => below
end

mutual
def read (owner : Nat) : Layers → Mapping
  | ⟨sections, below⟩ =>
      (sectionOf sections owner).map fun (key, slot) =>
        match slot with
        | .leaf value => (key, value)
        | .nested owner => (key, .map (readBelow key owner below))
termination_by structural layers => layers

def readBelow (key : Value) (owner : Nat) : List (Value × Layers) → Mapping
  | [] => []
  | (key', layers) :: rest =>
      if key'.sameKey key then read owner layers else readBelow key owner rest
termination_by structural below => below
end

def entries : Value → Mapping
  | .map m => m
  | _ => []

/-- Configurations are numbered in their order. -/
def ofConfigs (configs : List Value) : Layers :=
  configs.zipIdx.foldl (fun layers (config, owner) => add owner (entries config) layers) empty

end Layers

structure Merge where
  merged : Mapping
  configs : List Value
  deriving DecidableEq

/-- Whether a value can be merged. Values that count as false have nothing to bring in. -/
def isMergeable : Value → Bool
  | .map _ => true
  | value => !value.isTruthy

/-- Merges configurations in the given order, later ones over earlier ones, into a new one,
and shows what became of them. A configuration may be merged more than once. -/
def mergeInOrder (configs : List Value) (order : List Nat) : Merge :=
  let result := configs.length
  let layers := order.foldl (fun layers owner => layers.merge result owner)
    (Layers.ofConfigs configs)
  { merged := layers.read result
    configs := configs.zipIdx.map fun (config, owner) =>
      match config with
      | .map _ => .map (layers.read owner)
      | config => config }

def merge (configs : List Value) : Merge :=
  mergeInOrder configs (List.range configs.length)

def mergeInOrder? (configs : List Value) (order : List Nat) : Option Merge :=
  if order.all fun owner => configs[owner]?.all isMergeable then some (mergeInOrder configs order)
  else none

end WalCheckpoint.Config
