import BeanKit.Proofs.Container.Wiring
/-! # When a container starts

A container starts exactly when its components can be made, its interfaces can be bound and its
injection points can be served; otherwise it ends with the first fault. -/

namespace BeanKit

variable {c : Catalog} {n : Nat}

/-! ## The criterion -/

/-- A bean for a name, where `n` objects are there before the start: a component's own, the cast of
an interface's first provider, or the proxy of a bound interface, which needs an entity with
metadata, a repository made by the serving type, and a proxy factory. -/
inductive Catalog.Supplies (c : Catalog) (n : Nat) : String → Bean → Prop where
  | component {d : Definition} {b : Bean} (hd : d ∈ c.components)
      (hb : c.componentBean n d = .ok b) : c.Supplies n d.name b
  | capability {i d : Definition} {own shown : Bean} (hi : i ∈ c.interfaces)
      (hroot : c.repositoryRoot? i = none) (hd : provider? c i.name = some d)
      (hown : c.componentBean n d = .ok own) (hcast : d.castTo i.name own = some shown) :
      c.Supplies n i.name shown
  | proxy {i root servant entity : Definition} {id t : TypeRef} {rest : List TypeRef}
      {m : Metadata} {made : Bean} {target : ObjectId} {shownAs : String} (hi : i ∈ c.interfaces)
      (hroot : c.repositoryRoot? i = some root) (himpl : c.implementations root.name = [servant])
      (hargs : i.descriptor.typeArguments = id :: t :: rest)
      (hentity : c.get? t.name = some entity) (hmeta : Metadata.resolve entity.descriptor = .ok m)
      (hmade : servant.madeAs (c.repositoryNumber n i.name) = .ok made)
      (htarget : servant.repositoryTarget.bind (· made) = some target)
      (hfactory : i.proxyFactory = some shownAs) :
      c.Supplies n i.name ⟨.interface shownAs, ⟨c.repositoryNumber n i.name + 1⟩⟩

/-- What a catalog has to fulfil for its container to start. -/
structure Startable (c : Catalog) (n : Nat) : Prop where
  made : ∀ d ∈ c.components, ∃ blueprint, d.constructor = some (.ok blueprint)
  bound : ∀ i ∈ c.interfaces, ∀ root, c.repositoryRoot? i = some root →
    ∃ d, c.implementations root.name = [d]
  served : ∀ d ∈ c.components, ∀ m ∈ d.descriptor.autowireMethods,
    ∃ t injector target value, m.parameters = [t] ∧ d.injector? m.name = some injector ∧
      c.Supplies n d.name target ∧ c.Supplies n t.name value ∧
      injector.accept target value = .ok ()

/-! ## What is resolved is what is supplied -/

namespace Catalog

theorem supplies_of_resolved {component name : String} {b : Bean}
    (h : c.resolved n component name = .ok b) : c.Supplies n name b := by
  unfold resolved at h
  split at h
  · rename_i i servant hbound
    obtain ⟨hi, rfl, hservant⟩ := bound?_eq_some_iff.1 hbound
    obtain ⟨root, hroot, himpl⟩ := servant?_eq_some_iff.1 hservant
    obtain ⟨entity, m, made, target, shownAs, hentity, hm, hmade, htarget, hfactory, rfl⟩ :=
      proxyOver_eq_ok_iff.1 h
    obtain ⟨id, t, rest, hargs, hg⟩ := entityOf_eq_ok_iff.1 hentity
    exact .proxy hi hroot himpl hargs hg hm hmade htarget hfactory
  · split at h
    · rename_i hready
      cases h
      rw [readyBean?, Option.or_eq_some_iff] at hready
      rcases hready with hown | ⟨-, hlent⟩
      · obtain ⟨d, hd, rfl, hb⟩ := ownBean?_eq_some_iff.1 hown
        exact .component hd hb
      · obtain ⟨i, hi, rfl, hroot, d, own, hd, hown, hcast⟩ := lentBean?_eq_some_iff.1 hlent
        exact .capability hi hroot hd hown hcast
    · cases h

theorem resolved_of_supplies {name : String} {b : Bean} (h : c.Supplies n name b)
    (component : String) : c.resolved n component name = .ok b := by
  unfold resolved
  cases h with
  | component hd hb =>
    rw [bound?_of_component hd, readyBean?, ownBean?_of_mem hd, toOption_eq_some_iff.2 hb,
      Option.some_or]
  | @capability i d own _ hi hroot hd hown hcast =>
    have hlent := lentBean?_eq_some_iff.2 ⟨i, hi, rfl, hroot, d, own, hd, hown, hcast⟩
    rw [bound?_of_no_root hi hroot, readyBean?, ownBean?_of_interface hi, hlent, Option.none_or]
  | @proxy i root servant entity id t rest m made target shownAs hi hroot himpl hargs hentity hm
      hmade htarget hfactory =>
    have hbound : c.bound? i.name = some (i, servant) :=
      bound?_eq_some_iff.2 ⟨hi, rfl, servant?_eq_some_iff.2 ⟨root, hroot, himpl⟩⟩
    rw [hbound]
    exact proxyOver_eq_ok_iff.2 ⟨entity, m, made, target, shownAs,
      entityOf_eq_ok_iff.2 ⟨id, t, rest, hargs, hentity⟩, hm, hmade, htarget, hfactory, rfl⟩

/-- A dependency is resolved to a bean exactly where the catalog supplies it. -/
theorem resolved_eq_ok_iff {component name : String} {b : Bean} :
    c.resolved n component name = .ok b ↔ c.Supplies n name b :=
  ⟨supplies_of_resolved, fun h => resolved_of_supplies h component⟩

theorem supplies_component_iff {d : Definition} {b : Bean} (h : d ∈ c.components) :
    c.Supplies n d.name b ↔ c.componentBean n d = .ok b := by
  have hresolved : c.resolved n d.name d.name = .ok b ↔ c.Supplies n d.name b :=
    resolved_eq_ok_iff
  rw [← hresolved, resolved, bound?_of_component h, readyBean?,
    ownBean?_of_mem h, lentBean?_of_component h, Option.or_none]
  cases c.componentBean n d <;> simp [Except.toOption]

end Catalog

/-! ## No fault is the criterion -/

theorem Catalog.creationFault?_eq_none_iff (d : Definition) :
    creationFault? d = none ↔ ∃ blueprint, d.constructor = some (.ok blueprint) := by
  unfold creationFault?
  rcases d.constructor with _ | _ | _ <;> simp

theorem Catalog.bindingFault?_eq_none_iff (i : Definition) :
    c.bindingFault? i = none ↔
      ∀ root, c.repositoryRoot? i = some root → ∃ d, c.implementations root.name = [d] := by
  unfold bindingFault?
  cases c.repositoryRoot? i with
  | none => simp
  | some root =>
    rw [Option.bind_some]
    rcases hl : c.implementations root.name with _ | ⟨d, _ | ⟨d', rest⟩⟩ <;> simp [hl]

theorem Catalog.injectionFault?_eq_none_iff {d : Definition} {m : Method}
    (h : d ∈ c.components) :
    c.injectionFault? n ⟨d, m⟩ = none ↔ ∃ t injector target value, m.parameters = [t] ∧
      d.injector? m.name = some injector ∧ c.Supplies n d.name target ∧
      c.Supplies n t.name value ∧ injector.accept target value = .ok () := by
  simp only [injectionFault?, fault?_eq_none_iff, served_eq_ok_iff, supplies_component_iff h,
    resolved_eq_ok_iff]
  constructor
  · rintro ⟨_, t, injector, target, value, ht, hi, htarget, hvalue, ha, -⟩
    exact ⟨t, injector, target, value, ht, hi, htarget, hvalue, ha⟩
  · rintro ⟨t, injector, target, value, ht, hi, htarget, hvalue, ha⟩
    exact ⟨_, t, injector, target, value, ht, hi, htarget, hvalue, ha, rfl⟩

theorem Catalog.firstFault?_eq_none_iff (c : Catalog) (n : Nat) :
    c.firstFault? n = none ↔ Startable c n := by
  simp only [firstFault?, Option.or_eq_none_iff, List.findSome?_eq_none_iff,
    creationFault?_eq_none_iff, bindingFault?_eq_none_iff, injectionPoints, List.mem_flatMap,
    Definition.injectionPoints, List.mem_map]
  constructor
  · rintro ⟨hmade, hbound, hserved⟩
    refine ⟨hmade, hbound, fun d hd m hm => ?_⟩
    exact (injectionFault?_eq_none_iff hd).1 (hserved ⟨d, m⟩ ⟨d, hd, m, hm, rfl⟩)
  · rintro ⟨hmade, hbound, hserved⟩
    refine ⟨hmade, hbound, ?_⟩
    rintro _ ⟨d, hd, m, hm, rfl⟩
    exact (injectionFault?_eq_none_iff hd).2 (hserved d hd m hm)

/-- A container over a fresh registry and cache starts exactly where its catalog fulfils the
criterion. Otherwise it ends with the first fault: of the components in order, then of the
interfaces in order, then of the injection points in order. -/
theorem bootstrap_ok_iff_startable (c : Catalog) (i : Instances) :
    ((∃ x s, (bootstrap c).exec { instances := i } = (.ok x, s)) ↔
      Startable c i.objects.length) ∧
    ∀ e, (∃ s, (bootstrap c).exec { instances := i } = (.error e, s)) ↔
      c.firstFault? i.objects.length = some e := by
  have h := bootstrap_yields c i
  rw [← Catalog.firstFault?_eq_none_iff]
  exact ⟨h.exists_ok_iff, h.exists_error_iff⟩

end BeanKit
