import BeanKit.Proofs.Container.Progress
import Mathlib.Data.List.Nodup
import Mathlib.Data.List.ReduceOption
/-! # What a start has made

Every run of a constructor has made an object, and the object tells whose it was. While a container
starts, the runs are accounted for by the names that have a bean: one for a component itself, and for a
bound interface one of the type that serves it, whose entity is then in the cache. -/

namespace BeanKit

open Relation

variable {c : Catalog} {d servant : Definition} {i : Instances} {s t : Stage} {b : Bean} {name : String}

/-! ## Constructor runs -/

/-- The definition whose constructor has made an object; proxies are made by none. -/
def Object.constructedBy? (o : Object) : Option String :=
  if o.nature.isProxy then none else some o.origin

namespace Instances

/-- The definition whose constructor has made the object of an identity. -/
def constructedBy? (i : Instances) (id : ObjectId) : Option String :=
  (i.get? id).bind Object.constructedBy?

/-- All runs of constructors, by the names of the definitions, in order. -/
def constructorRuns (i : Instances) : List String :=
  (i.objects.map Object.constructedBy?).reduceOption

theorem constructorRuns_make (i : Instances) (o : Object) :
    (i.make o).2.constructorRuns = i.constructorRuns ++ o.constructedBy?.toList := by
  rw [constructorRuns, make, List.map_append, List.reduceOption_append, List.map_singleton,
    List.reduceOption_singleton]
  rfl

theorem constructedBy?_make_self (i : Instances) (o : Object) :
    (i.make o).2.constructedBy? ⟨i.objects.length⟩ = o.constructedBy? := by
  rw [constructedBy?, get?_make_self, Option.bind_some]

theorem constructedBy?_make {id : ObjectId} (h : i.constructedBy? id = some name) (o : Object) :
    (i.make o).2.constructedBy? id = some name := by
  obtain ⟨o', hget, ho'⟩ := Option.bind_eq_some_iff.1 h
  rw [constructedBy?, get?_make_of_get? hget, Option.bind_some, ho']

/-- Binding a repository does not show in who has made what. -/
theorem map_constructedBy?_bind (i : Instances) (target : ObjectId) (m : Metadata) :
    (i.bind target m).objects.map Object.constructedBy? = i.objects.map Object.constructedBy? := by
  refine List.ext_getElem? fun k => ?_
  rw [List.getElem?_map, List.getElem?_map, bind, List.getElem?_modify]
  split
  · rcases i.objects[k]? with _ | ⟨origin, type | r | _⟩ <;> rfl
  · rcases i.objects[k]? with _ | o <;> rfl

theorem constructorRuns_bind (i : Instances) (target : ObjectId) (m : Metadata) :
    (i.bind target m).constructorRuns = i.constructorRuns := by
  rw [constructorRuns, map_constructedBy?_bind]
  rfl

theorem constructedBy?_bind (i : Instances) (target : ObjectId) (m : Metadata) (id : ObjectId) :
    (i.bind target m).constructedBy? id = i.constructedBy? id := by
  have h (j : Instances) : j.constructedBy? id = (j.objects.map Object.constructedBy?)[id.index]?.join := by
    rw [List.getElem?_map, constructedBy?, get?]
    cases j.objects[id.index]? <;> rfl
  rw [h, h, map_constructedBy?_bind]

end Instances

/-! ## Which definitions have a bean -/

/-- The definitions whose names have a bean. -/
def Stage.having (s : Stage) (ds : List Definition) : List Definition :=
  ds.filter fun d => (s.registry.get? d.name).isSome

theorem having_congr {ds : List Definition}
    (h : ∀ d ∈ ds, t.registry.get? d.name = s.registry.get? d.name) : t.having ds = s.having ds :=
  List.filter_congr fun d hd => by rw [h d hd]

/-- A name that is given its bean adds its definition to those that have one. -/
theorem having_fill {ds : List Definition} (hnodup : (ds.map Definition.name).Nodup) (hd : d ∈ ds)
    (hfree : s.registry.get? d.name = none)
    (hreg : ∀ name, t.registry.get? name = s.registry.get? name) (b : Bean) :
    ((t.fill d.name b).having ds).Perm (d :: s.having ds) := by
  have hds := hnodup.of_map
  have hnew : d ∉ s.having ds := fun h => by simp [Stage.having, hfree] at h
  refine (List.perm_ext_iff_of_nodup (hds.filter _) (List.nodup_cons.2 ⟨hnew, hds.filter _⟩)).2
    fun e => ?_
  simp only [Stage.having, List.mem_cons, List.mem_filter, Stage.fill, Registry.get?_fill, hreg]
  by_cases he : e.name = d.name
  · have hed : e ∈ ds → e = d := fun h => List.inj_on_of_nodup_map hnodup h hd he
    constructor
    · exact fun h => .inl (hed h.1)
    · rintro (rfl | h)
      · exact ⟨hd, by simp⟩
      · exact ⟨h.1, by simp [he]⟩
  · rw [if_neg he, Option.or_none]
    exact ⟨.inr, fun h => h.resolve_left fun h => he (h ▸ rfl)⟩

theorem component_name_ne {j : Definition} (hd : d ∈ c.components) (hj : j ∈ c.interfaces) :
    d.name ≠ j.name := by
  intro h
  obtain ⟨hget, hcomponent⟩ := (c.mem_components_iff d).1 hd
  obtain ⟨hget', hinterface⟩ := (c.mem_interfaces_iff j).1 hj
  rw [h, hget'] at hget
  cases hget
  rw [d.not_isInterface_of_isComponent hcomponent] at hinterface
  cases hinterface

/-- The interfaces that types of the catalog serve. -/
def Catalog.boundInterfaces (c : Catalog) : List Definition :=
  c.interfaces.filter fun d => (c.servant? d).isSome

/-- The name of the type that serves an interface. -/
def Catalog.servantName? (c : Catalog) (d : Definition) : Option String :=
  (c.servant? d).map Definition.name

theorem mem_boundInterfaces_iff :
    d ∈ c.boundInterfaces ↔ ∃ servant, c.bound? d.name = some (d, servant) := by
  rw [Catalog.boundInterfaces, List.mem_filter, Option.isSome_iff_exists]
  simp only [Catalog.bound?_eq_some_iff, true_and, exists_and_left]

theorem nodup_boundInterfaces (c : Catalog) : (c.boundInterfaces.map Definition.name).Nodup :=
  c.nodup_interface_names.sublist (List.filter_sublist.map _)

/-! ## What has been made -/

/-- What has been made so far is accounted for by the names that have a bean: one constructor run for
each component, and one for each bound interface, of the type that serves it, whose entity has been
looked up. -/
structure Tallied (c : Catalog) (i : Instances) (s : Stage) : Prop where
  own : ∀ d ∈ c.components, ∀ b, s.registry.get? d.name = some b →
    s.instances.constructedBy? b.object = some d.name
  runs : s.instances.constructorRuns.Perm (i.constructorRuns ++
    (s.having c.components).map Definition.name ++
      (s.having c.boundInterfaces).filterMap c.servantName?)
  cached : ∀ name m, s.cache.get? name = some m ↔
    ∃ d ∈ s.having c.boundInterfaces, ∃ entity, c.entityOf d = .ok entity ∧ entity.name = name ∧
      Metadata.resolve entity.descriptor = .ok m

theorem having_start (ds : List Definition) : Stage.having { instances := i } ds = [] :=
  List.filter_eq_nil_iff.2 fun _ _ h => Bool.false_ne_true h

theorem tallied_start (c : Catalog) (i : Instances) : Tallied c i { instances := i } where
  own _ _ _ hb := nomatch hb
  runs := by
    rw [having_start, having_start, List.map_nil, List.filterMap_nil, List.append_nil,
      List.append_nil]
  cached name m := by
    refine ⟨nofun, ?_⟩
    rintro ⟨d, hd, -⟩
    rw [having_start] at hd
    exact absurd hd List.not_mem_nil

section Steps

variable (hreg : ∀ name, t.registry.get? name = s.registry.get? name)

include hreg

theorem get?_fill_of_ne {name' : String} (hn : name' ≠ name) (b : Bean) :
    (t.fill name b).registry.get? name' = s.registry.get? name' := by
  rw [Stage.fill, Registry.get?_fill, if_neg hn, Option.or_none, hreg]

/-- A component is made. -/
theorem Tallied.component (h : Tallied c i s) (hd : d ∈ c.components)
    (hfree : s.registry.get? d.name = none) (hcache : t.cache = s.cache) {o : Object}
    (ho : o.constructedBy? = some d.name) (hmade : t.instances = (s.instances.make o).2)
    (hb : b.object = ⟨s.instances.objects.length⟩) : Tallied c i (t.fill d.name b) := by
  have hbound : (t.fill d.name b).having c.boundInterfaces = s.having c.boundInterfaces :=
    having_congr fun j hj =>
      get?_fill_of_ne hreg (component_name_ne hd (List.mem_of_mem_filter hj)).symm b
  refine ⟨fun d' hd' b' hb' => ?_, ?_, ?_⟩
  · change t.instances.constructedBy? b'.object = some d'.name
    rw [hmade]
    rw [Stage.fill, Registry.get?_fill_eq_some_iff, hreg] at hb'
    rcases hb' with hold | ⟨-, hname, rfl⟩
    · exact Instances.constructedBy?_make (h.own d' hd' b' hold) o
    · rw [hb, Instances.constructedBy?_make_self, ho, hname]
  · change t.instances.constructorRuns.Perm _
    rw [hmade, Instances.constructorRuns_make, ho, hbound]
    have hmore := (having_fill c.nodup_component_names hd hfree hreg b).map Definition.name
    refine List.perm_iff_count.2 fun name => ?_
    have hcount := h.runs.count_eq name
    have hmore := hmore.count_eq name
    simp only [List.count_append, List.map_cons, List.count_cons, Option.toList_some,
      List.count_nil] at hcount hmore ⊢
    omega
  · rw [hbound]
    exact hcache ▸ h.cached

/-- A name that is neither a component's nor a bound interface's is given a bean. -/
theorem Tallied.lent (h : Tallied c i s) (hd : d ∈ c.interfaces) (hroot : c.repositoryRoot? d = none)
    (hcache : t.cache = s.cache) (hkept : t.instances = s.instances) (b : Bean) :
    Tallied c i (t.fill d.name b) := by
  have hcomponents : ∀ e ∈ c.components,
      (t.fill d.name b).registry.get? e.name = s.registry.get? e.name :=
    fun e he => get?_fill_of_ne hreg (component_name_ne he hd) b
  have hbound : (t.fill d.name b).having c.boundInterfaces = s.having c.boundInterfaces := by
    refine having_congr fun e he => get?_fill_of_ne hreg (fun hn => ?_) b
    obtain ⟨servant, hservant⟩ := mem_boundInterfaces_iff.1 he
    rw [hn, Catalog.bound?_of_no_root hd hroot] at hservant
    cases hservant
  refine ⟨fun e he b' hb' => ?_, ?_, ?_⟩
  · change t.instances.constructedBy? b'.object = some e.name
    rw [hkept]
    exact h.own e he b' (hcomponents e he ▸ hb')
  · change t.instances.constructorRuns.Perm _
    rw [hkept, hbound, having_congr hcomponents]
    exact h.runs
  · rw [hbound]
    exact hcache ▸ h.cached

end Steps

theorem get?_of_entityOf {entity : Definition} (h : c.entityOf d = .ok entity) :
    c.get? entity.name = some entity := by
  obtain ⟨-, t, -, -, hget⟩ := Catalog.entityOf_eq_ok_iff.1 h
  rwa [Catalog.name_of_get? hget]

/-- Metadata that the cache answers with is what it had or what the entity resolves to, and it has it
from then on. -/
theorem MetadataCache.resolve_eq_ok {cache cache' : MetadataCache} {e : Descriptor}
    {shared : SharedMetadata} (h : cache.resolve e = (.ok shared, cache')) :
    (cache.get? e.name = some shared.metadata ∨ Metadata.resolve e = .ok shared.metadata) ∧
      ∀ name m, cache'.get? name = some m ↔
        cache.get? name = some m ∨ name = e.name ∧ m = shared.metadata := by
  rcases cache.resolve_cases e with ⟨_, hshared, h'⟩ | ⟨m', hshared, hm, h'⟩ | ⟨e', -, -, h'⟩ <;>
    rw [h'] at h <;> cases h
  · have hget : cache.get? e.name = some shared.metadata := by rw [get?, hshared, Option.map_some]
    refine ⟨.inl hget, fun name m => ⟨.inl, ?_⟩⟩
    rintro (hm | ⟨rfl, rfl⟩)
    · exact hm
    · exact hget
  · have hget : cache.get? e.name = none := by rw [get?, hshared, Option.map_none]
    refine ⟨.inr hm, fun name m => ?_⟩
    rw [get?_keep, Option.or_eq_some_iff]
    by_cases hn : name = e.name
    · subst hn
      simp [hget, next, eq_comm]
    · simp [hn]

theorem Catalog.Builds.constructedBy? (h : c.Builds d servant s b t) {id : ObjectId}
    (hid : s.instances.constructedBy? id = some name) :
    t.instances.constructedBy? id = some name := by
  cases h with
  | proxy _ _ _ _ _ =>
    refine Instances.constructedBy?_make ?_ _
    rw [Instances.constructedBy?_bind]
    exact Instances.constructedBy?_make hid _

/-- The repository of a proxy is one more run, of the type that serves; the proxy is none. -/
theorem Catalog.Builds.constructorRuns (h : c.Builds d servant s b t) :
    t.instances.constructorRuns = s.instances.constructorRuns ++ [servant.name] := by
  cases h with
  | @proxy entity shared cache blueprint target shownAs _ _ _ _ _ =>
    have hmade : Object.constructedBy? ⟨servant.name, blueprint.nature⟩ = some servant.name :=
      if_neg (by simp [blueprint.isProxy_nature])
    rw [Instances.constructorRuns_make, Instances.constructorRuns_bind,
      Instances.constructorRuns_make, hmade]
    exact List.append_nil _

theorem Catalog.Builds.resolves (h : c.Builds d servant s b t) : ∃ entity shared,
    c.entityOf d = .ok entity ∧ s.cache.resolve entity.descriptor = (.ok shared, t.cache) := by
  cases h with
  | proxy hentity hm _ _ _ => exact ⟨_, _, hentity, hm⟩

/-- Metadata that the cache has for an entity is what the entity resolves to. -/
theorem Tallied.resolve_of_known (h : Tallied c i s) {entity : Definition} {m : Metadata}
    (hentity : c.entityOf d = .ok entity)
    (hm : s.cache.get? entity.name = some m ∨ Metadata.resolve entity.descriptor = .ok m) :
    Metadata.resolve entity.descriptor = .ok m := by
  rcases hm with hold | hnew
  · -- Another interface of the same entity has been given its proxy before.
    obtain ⟨d', -, entity', hentity', hname, hresolve⟩ := (h.cached _ _).1 hold
    have hsame := get?_of_entityOf hentity'
    rw [hname] at hsame
    obtain rfl := Option.some.inj (hsame.symm.trans (get?_of_entityOf hentity))
    exact hresolve
  · exact hnew

/-- A bound interface is given its proxy. -/
theorem Tallied.proxy (h : Tallied c i s) (hbound : c.bound? d.name = some (d, servant))
    (hfree : s.registry.get? d.name = none) (hb : c.Builds d servant (s.reserve d.name) b t) :
    Tallied c i (t.fill d.name b) := by
  obtain ⟨hd, -, hservant⟩ := Catalog.bound?_eq_some_iff.1 hbound
  have hreg (name : String) : t.registry.get? name = s.registry.get? name := by
    rw [hb.registry]
    exact s.registry.get?_reserve d.name name
  have hcomponents : ∀ e ∈ c.components,
      (t.fill d.name b).registry.get? e.name = s.registry.get? e.name :=
    fun e he => get?_fill_of_ne hreg (component_name_ne he hd) b
  have hmore := having_fill (nodup_boundInterfaces c) (mem_boundInterfaces_iff.2 ⟨servant, hbound⟩)
    hfree hreg b
  refine ⟨fun e he b' hb' => ?_, ?_, fun name m' => ?_⟩
  · exact hb.constructedBy? (h.own e he b' (hcomponents e he ▸ hb'))
  · refine (List.Perm.of_eq hb.constructorRuns).trans ?_
    rw [having_congr hcomponents]
    refine List.perm_iff_count.2 fun name => ?_
    have hcount := h.runs.count_eq name
    have hmore := (hmore.filterMap c.servantName?).count_eq name
    rw [List.filterMap_cons, Catalog.servantName?, hservant, Option.map_some] at hmore
    simp only [List.count_append, List.count_cons, List.count_nil] at hcount hmore ⊢
    exact (congrArg (· + _) hcount).trans (by omega)
  · obtain ⟨entity, shared, hentity, hm⟩ := hb.resolves
    obtain ⟨hknown, hcache⟩ := MetadataCache.resolve_eq_ok hm
    have hresolve := h.resolve_of_known hentity hknown
    refine (hcache name m').trans ((or_congr_left (h.cached name m')).trans ?_)
    constructor
    · rintro (⟨d', hd', hrest⟩ | ⟨rfl, rfl⟩)
      · exact ⟨d', hmore.mem_iff.2 (List.mem_cons_of_mem _ hd'), hrest⟩
      · exact ⟨d, hmore.mem_iff.2 List.mem_cons_self, entity, hentity, rfl, hresolve⟩
    · rintro ⟨d', hd', entity', hentity', hname, hresolve'⟩
      rcases List.mem_cons.1 (hmore.mem_iff.1 hd') with rfl | hold
      · cases hentity.symm.trans hentity'
        cases hresolve.symm.trans hresolve'
        exact .inr ⟨hname.symm, rfl⟩
      · exact .inl ⟨d', hold, entity', hentity', hname, hresolve'⟩

theorem Tallied.advance (h : Tallied c i s) (ha : c.Advances s t) : Tallied c i t := by
  cases ha with
  | @component d blueprint hd hfree hblueprint =>
    have hby : Object.constructedBy? ⟨d.name, blueprint.nature⟩ = some d.name :=
      if_neg (by simp [blueprint.isProxy_nature])
    refine Tallied.component (fun name => ?_) h hd hfree rfl hby rfl rfl
    exact s.registry.get?_reserve d.name name
  | @lent d hd hroot b =>
    have hreg (name : String) : (s.reserve d.name).registry.get? name = s.registry.get? name :=
      s.registry.get?_reserve d.name name
    exact h.lent hreg hd hroot rfl rfl b
  | proxy hbound hfree hbuilds => exact h.proxy hbound hfree hbuilds
  | injection _ => exact ⟨h.own, h.runs, h.cached⟩

theorem tallied_of_advances (h : ReflTransGen c.Advances { instances := i } t) : Tallied c i t := by
  induction h with
  | refl => exact tallied_start c i
  | tail _ ha ih => exact ih.advance ha

end BeanKit
