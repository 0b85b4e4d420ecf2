import BeanKit.Proofs.Container.Building
import BeanKit.Proofs.Container.Later
/-! # What every stage of a container keeps

A container changes its stage in few ways. While it starts, it makes objects for its components,
gives beans to names that are not bound, and records injections; then and afterwards it resolves bound
interfaces; and whoever holds a repository can bind it. What all of these keep holds of every stage
that anyone can see. -/

namespace BeanKit

/-- A condition on the stage that a started container keeps. -/
structure Catalog.Keeps (c : Catalog) (I : Stage → Prop) : Prop where
  cache : ∀ {s}, I s → CacheOf c s.cache
  resolve : ∀ {d servant s r t}, c.bound? d.name = some (d, servant) → I s →
    c.Resolves d servant s r t → I t
  bind : ∀ {s} (repository : ObjectId) (m : Metadata), I s →
    I { s with instances := s.instances.bind repository m }

/-- A condition on the stage that a container keeps from before its start. -/
structure Catalog.KeepsFromStart (c : Catalog) (I : Stage → Prop) : Prop extends c.Keeps I where
  make : ∀ {s} (origin : String) (b : Blueprint), I s →
    I { s with instances := (s.instances.make ⟨origin, b.nature⟩).2 }
  reserve : ∀ {s name}, c.bound? name = none → I s → I (s.reserve name)
  fill : ∀ {s name} (b : Bean), c.bound? name = none → I s → I (s.fill name b)
  inject : ∀ {s} (i : Injection), I s → I { s with instances := s.instances.inject i }

/-- A bean for a name that is not bound is none for a bound one. -/
theorem get?_fill_of_bound {c : Catalog} {name name' : String} (hname : c.bound? name = none)
    (hname' : (c.bound? name').isSome) (s : Stage) (b : Bean) :
    (s.fill name b).registry.get? name' = s.registry.get? name' := by
  have hne : name' ≠ name := by
    rintro rfl
    rw [hname] at hname'
    cases hname'
  rw [Stage.fill, Registry.get?_fill, if_neg hne, Option.or_none]

/-- Bindings to what serves each interface in a catalog. -/
def Catalog.Backs (c : Catalog) (bindings : Bindings) : Prop :=
  ∀ name implementation, bindings.get? name = some implementation →
    ∃ d servant, c.bound? d.name = some (d, servant) ∧ d.name = name ∧ servant.name = implementation

theorem BindingsOf.backs {c : Catalog} {bindings : Bindings} (h : BindingsOf c bindings) :
    c.Backs bindings := by
  intro name implementation hb
  rw [h name, Option.map_eq_some_iff] at hb
  obtain ⟨⟨d, servant⟩, hbound, rfl⟩ := hb
  obtain ⟨-, rfl, -⟩ := Catalog.bound?_eq_some_iff.1 hbound
  exact ⟨d, servant, hbound, rfl, rfl⟩

section Start

variable {c : Catalog} {I : Stage → Prop} {bindings : Bindings}

theorem Catalog.KeepsFromStart.instantiate (hk : c.KeepsFromStart I) (d : Definition) :
    d.instantiate.Ensures I fun _ => True := by
  unfold Definition.instantiate
  cases d.blueprint with
  | error e => exact Build.ensures_throw e
  | ok blueprint => exact fun s hs => ⟨hk.make d.name blueprint hs, fun _ _ => trivial⟩

/-- Making a bean for a name that is not bound. -/
theorem Catalog.KeepsFromStart.getOrCreate (hk : c.KeepsFromStart I) {name : String}
    {factory : Build Bean} (hname : c.bound? name = none)
    (hf : factory.Ensures I fun _ => True) :
    (Build.getOrCreate name factory).Ensures I fun _ => True :=
  Build.ensures_getOrCreate (fun _ => hk.reserve hname) (fun _ b => hk.fill b hname) hf

theorem Catalog.KeepsFromStart.registerByCapability (hk : c.KeepsFromStart I) {name : String}
    (hname : c.bound? name = none) :
    (registerByCapability c name).Ensures I fun _ => True := by
  intro s hs
  refine ⟨?_, fun _ _ => trivial⟩
  rw [exec_registerByCapability]
  split
  · exact hs
  · exact hk.fill _ hname (hk.reserve hname hs)

theorem Catalog.KeepsFromStart.makeComponents (hk : c.KeepsFromStart I) {ds : List Definition}
    (hds : ∀ d ∈ ds, d ∈ c.components) : (makeComponents ds).Ensures I fun _ => True := by
  induction ds with
  | nil => exact Build.ensures_pure trivial
  | cons d rest ih =>
    obtain ⟨hd, hrest⟩ := List.forall_mem_cons.1 hds
    exact (hk.getOrCreate (Catalog.bound?_of_component hd) (hk.instantiate d)).bind
      fun _ _ => ih hrest

theorem Catalog.Backs.insert (hb : c.Backs bindings) {d root : Definition} (hd : d ∈ c.interfaces)
    (hr : c.repositoryRoot? d = some root) {implementation : String}
    (h : findImplementation c d root = .ok implementation) :
    c.Backs (bindings.insert d.name implementation) := by
  intro name implementation' hget
  by_cases hn : name = d.name
  · obtain ⟨servant, hservant, hname⟩ := (Catalog.findImplementation_eq_ok_iff hr).1 h
    rw [hn, OrderedMap.get?_insert_self] at hget
    exact ⟨d, servant, Catalog.bound?_eq_some_iff.2 ⟨hd, rfl, hservant⟩, hn.symm,
      hname.trans (Option.some.inj hget)⟩
  · rw [OrderedMap.get?_insert_of_ne _ _ hn] at hget
    exact hb name implementation' hget

theorem Catalog.KeepsFromStart.bindInterfaces (hk : c.KeepsFromStart I) {ds : List Definition}
    (hds : ∀ d ∈ ds, d ∈ c.interfaces) (hb : c.Backs bindings) :
    (bindInterfaces c bindings ds).Ensures I c.Backs := by
  induction ds generalizing bindings with
  | nil => exact Build.ensures_pure hb
  | cons d rest ih =>
    obtain ⟨hd, hrest⟩ := List.forall_mem_cons.1 hds
    rw [BeanKit.bindInterfaces]
    cases hr : c.repositoryRoot? d with
    | none =>
      exact (hk.registerByCapability (Catalog.bound?_of_no_root hd hr)).bind fun _ _ => ih hrest hb
    | some root =>
      exact (Build.ensures_lift fun _ h => hb.insert hd hr h).bind fun _ h => ih hrest h

theorem Catalog.Keeps.resolveBound (hk : c.Keeps I) (hb : c.Backs bindings)
    {name implementation : String} (h : bindings.get? name = some implementation) :
    (c.resolveBound name implementation).Ensures I fun _ => True := by
  obtain ⟨d, servant, hbound, rfl, rfl⟩ := hb name implementation h
  exact fun s hs =>
    ⟨hk.resolve hbound hs (resolves_of_exec hbound (hk.cache hs) rfl), fun _ _ => trivial⟩

theorem Catalog.Keeps.resolveDependency (hk : c.Keeps I) (hb : c.Backs bindings)
    (component dependency : String) :
    (resolveDependency c bindings component dependency).Ensures I fun _ => True := by
  unfold BeanKit.resolveDependency
  split
  · rename_i himpl
    exact hk.resolveBound hb himpl
  · exact Build.ensures_registered dependency _

theorem Catalog.KeepsFromStart.injector (hk : c.KeepsFromStart I) (injector : Injector)
    (target dependency : Bean) : (injector.run target dependency).Ensures I fun _ => True := by
  unfold Injector.run
  cases injector.accept target dependency with
  | error e => exact Build.ensures_throw e
  | ok _ => exact fun s hs => ⟨hk.inject _ hs, fun _ _ => trivial⟩

theorem Catalog.KeepsFromStart.wireMethod (hk : c.KeepsFromStart I) (hb : c.Backs bindings)
    (d : Definition) (target : Bean) (m : Method) :
    (wireMethod c bindings d target m).Ensures I fun _ => True := by
  unfold BeanKit.wireMethod
  split
  · cases d.injector? m.name with
    | none => exact Build.ensures_throw _
    | some injector =>
      exact (hk.toKeeps.resolveDependency hb d.name _).bind fun value _ =>
        hk.injector injector target value
  · exact Build.ensures_throw _

theorem Catalog.KeepsFromStart.wireMethods (hk : c.KeepsFromStart I) (hb : c.Backs bindings)
    (d : Definition) (target : Bean) (ms : List Method) (count : Nat) :
    (wireMethods c bindings d target count ms).Ensures I fun _ => True := by
  induction ms generalizing count with
  | nil => exact Build.ensures_pure trivial
  | cons m rest ih => exact (hk.wireMethod hb d target m).bind fun _ _ => ih _

theorem Catalog.KeepsFromStart.wireComponents (hk : c.KeepsFromStart I) (hb : c.Backs bindings)
    (ds : List Definition) (count : Nat) :
    (wireComponents c bindings count ds).Ensures I fun _ => True := by
  induction ds generalizing count with
  | nil => exact Build.ensures_pure trivial
  | cons d rest ih =>
    refine Build.ensures_get.bind fun s _ => ?_
    split
    · exact Build.ensures_throw _
    · exact (hk.wireMethods hb d _ _ _).bind fun _ _ => ih _

/-- What holds before a start and is kept holds after it. -/
theorem Catalog.KeepsFromStart.bootstrap (hk : c.KeepsFromStart I) {s t : Stage} {x : Context}
    (hs : I s) (h : (bootstrap c).exec s = (.ok x, t)) : I t := by
  have hkeeps : (BeanKit.bootstrap c).Ensures I fun _ => True := by
    refine (hk.makeComponents fun _ hd => hd).bind fun _ _ => ?_
    refine (hk.bindInterfaces (fun _ hd => hd) (nofun : c.Backs .empty)).bind fun bindings hb => ?_
    exact (hk.wireComponents hb _ _).bind fun _ _ => Build.ensures_pure trivial
  have ht := (hkeeps s hs).1
  rw [h] at ht
  exact ht

end Start

/-- What a catalog keeps, the container that was started over it keeps. -/
theorem Catalog.Keeps.context {x : Context} {I : Stage → Prop} (hk : x.catalog.Keeps I)
    (hb : x.catalog.Backs x.bindings) : x.Keeps I where
  resolve himpl := hk.resolveBound hb himpl
  bind := hk.bind

end BeanKit
