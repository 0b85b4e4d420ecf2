import BeanKit.Container.Definition
/-!
# Catalogs and where they are filled from

A catalog lists type definitions in order, one for each name: the first one entered. It is filled by
hand, from fixed lists, or from the inventory, in which types are entered as a program starts; a
namespace picks the types of a part of the program.
-/

namespace BeanKit

/-- Type definitions by name. -/
structure Catalog extends OrderedMap String Definition where
  named : ∀ e ∈ entries, e.1 = e.2.name

namespace Catalog

/-- The catalog without types. -/
def empty : Catalog := { entries := [], named := by simp }

instance : Inhabited Catalog := ⟨empty⟩

/-- Enters a definition; one whose name is taken is left out. -/
def add (c : Catalog) (d : Definition) : Catalog :=
  { toOrderedMap := c.insertIfAbsent d.name d
    named := by
      intro e he
      rcases OrderedMap.mem_insertIfAbsent he with he | rfl
      · exact c.named e he
      · rfl }

/-- Enters definitions in turn. -/
def addAll (c : Catalog) (ds : List Definition) : Catalog := ds.foldl add c

/-- The definitions, in order. -/
def definitions (c : Catalog) : List Definition := c.values

/-- The components, in order. -/
def components (c : Catalog) : List Definition := c.definitions.filter Definition.isComponent

/-- The interfaces, in order. -/
def interfaces (c : Catalog) : List Definition := c.definitions.filter (·.descriptor.isInterface)

/-- The concrete types, in order. -/
def concretes (c : Catalog) : List Definition := c.definitions.filter (!·.descriptor.isInterface)

/-- The descriptors, in order. -/
def descriptors (c : Catalog) : List Descriptor := c.definitions.map (·.descriptor)

/-- The catalog as a written document: the descriptors, in order. -/
def text (c : Catalog) : String :=
  (Text.Document.list (c.descriptors.map Descriptor.document)).pretty

theorem name_of_get? {c : Catalog} {name : String} {d : Definition} (h : c.get? name = some d) :
    d.name = name :=
  (c.named _ ((OrderedMap.get?_eq_some_iff ..).1 h)).symm

/-- The definitions are what looking up their names finds. -/
theorem mem_definitions_iff (c : Catalog) (d : Definition) :
    d ∈ c.definitions ↔ c.get? d.name = some d := by
  rw [OrderedMap.get?_eq_some_iff, definitions, OrderedMap.values, List.mem_map]
  constructor
  · rintro ⟨e, he, rfl⟩
    rw [← c.named e he]
    exact he
  · exact fun h => ⟨_, h, rfl⟩

theorem nodup_names (c : Catalog) : (c.definitions.map Definition.name).Nodup := by
  have h : c.definitions.map Definition.name = c.entries.map (·.1) := by
    rw [definitions, OrderedMap.values, List.map_map]
    exact List.map_congr_left fun e he => (c.named e he).symm
  exact h ▸ c.nodup

theorem mem_components_iff (c : Catalog) (d : Definition) :
    d ∈ c.components ↔ c.get? d.name = some d ∧ d.isComponent := by
  rw [components, List.mem_filter, mem_definitions_iff]

theorem mem_interfaces_iff (c : Catalog) (d : Definition) :
    d ∈ c.interfaces ↔ c.get? d.name = some d ∧ d.descriptor.isInterface := by
  rw [interfaces, List.mem_filter, mem_definitions_iff]

theorem nodup_component_names (c : Catalog) : (c.components.map Definition.name).Nodup :=
  c.nodup_names.sublist (List.filter_sublist.map _)

/-- Where names are distinct, what is done has other names than what comes next. -/
theorem name_not_mem_of_append {ds done rest : List Definition} {d : Definition}
    (hn : (ds.map Definition.name).Nodup) (h : done ++ d :: rest = ds) :
    d.name ∉ done.map Definition.name := by
  rw [← h, List.map_append, List.map_cons, List.nodup_append] at hn
  exact fun hm => hn.2.2 _ hm _ List.mem_cons_self rfl

theorem nodup_interface_names (c : Catalog) : (c.interfaces.map Definition.name).Nodup :=
  c.nodup_names.sublist (List.filter_sublist.map _)

end Catalog

/-- Whether a definition lies in a namespace. -/
def Definition.inNamespace (space : String) (d : Definition) : Bool :=
  d.descriptor.type.inNamespace space

/-- The definitions entered as the program starts; the first of a name counts. -/
abbrev Inventory := OrderedMap String Definition

namespace Inventory

/-- Enters a definition. -/
def submit (i : Inventory) (d : Definition) : Inventory := i.insertIfAbsent d.name d

/-- The inventory after definitions have been entered in turn. -/
def ofSubmissions (ds : List Definition) : Inventory := ds.foldl submit .empty

/-- The definitions of a namespace in ascending order of their names, so that the order in which a
program starts does not show. -/
def scan (i : Inventory) (space : String) : List Definition :=
  (i.values.filter (·.inNamespace space)).mergeSort fun a b => decide (a.name ≤ b.name)

end Inventory

/-- Where definitions come from: a name, and what there is in a namespace. -/
structure Scanner where
  name : String
  scan : String → List Definition

namespace Scanner

/-- A fixed list, which keeps its order. -/
def fixed (definitions : List Definition) : Scanner :=
  ⟨"static", fun space => definitions.filter (·.inNamespace space)⟩

/-- The inventory. -/
def inventory (types : Inventory) : Scanner := ⟨"inventory", types.scan⟩

end Scanner

/-- The name of the root interface of repositories. -/
def rootInterface : TypeRef := .named "dyn di_abstractions::repository::CrudRepository<(), ()>"

/-- The root interface of repositories. -/
def rootDefinition : Definition :=
  { descriptor := { type := rootInterface, kind := .interface, tags := [.repository] } }

/-- The repository type that the library brings along. -/
def repositoryDefinition : Definition :=
  { descriptor :=
      { type := .named repositoryType, kind := .concrete, interfaces := [rootInterface] }
    constructor := some (.ok .repository)
    repositoryTarget :=
      some fun b => if b.isComponent repositoryType then some b.object else none }

/-- The definitions that the library brings along. -/
def builtins : List Definition := [rootDefinition, repositoryDefinition]

end BeanKit
