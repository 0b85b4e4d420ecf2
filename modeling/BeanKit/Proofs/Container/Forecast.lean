import BeanKit.Proofs.Container.Steps
/-! # What a start-up will come to

The beans that a container makes, and the faults that it meets, read off the catalog alone. Objects
are numbered in the order in which they are made: the components first, in the order of the catalog,
and then, at the first injection point that asks for a repository interface, the repository that
serves it and the proxy in front. `n` is the number of objects there are before the start. -/

namespace BeanKit

/-- A method through which a component takes a dependency. -/
structure InjectionPoint where
  component : Definition
  method : Method

/-- The injection points of a component, as declared. -/
def Definition.injectionPoints (d : Definition) : List InjectionPoint :=
  d.descriptor.autowireMethods.map (⟨d, ·⟩)

namespace Catalog

section Definitions

variable (c : Catalog) (n : Nat)

/-- The injection points of the components, in the order of the catalog. -/
def injectionPoints : List InjectionPoint := c.components.flatMap Definition.injectionPoints

/-- How many components stand before a component. -/
def place (d : Definition) : Nat := (c.components.map Definition.name).idxOf d.name

/-- The bean of a component. -/
def componentBean (d : Definition) : Except ContainerError Bean := d.madeAs (n + c.place d)

/-- The one type that serves an interface with a repository root. -/
def servant? (i : Definition) : Option Definition :=
  (c.repositoryRoot? i).bind fun root =>
    match c.implementations root.name with
    | [d] => some d
    | _ => none

/-- The entry of an interface in the bindings, where it has a root. -/
def binding? (i : Definition) : Option (String × String) :=
  (c.servant? i).map fun d => (i.name, d.name)

/-- A repository interface by its name, with the type that serves it. -/
def bound? (name : String) : Option (Definition × Definition) :=
  (c.get? name).bind fun i =>
    if i.descriptor.isInterface then (c.servant? i).map (i, ·) else none

/-- The repository interface that an injection point asks for. -/
def requested? (p : InjectionPoint) : Option String :=
  match p.method.parameters with
  | [t] => (c.bound? t.name).map fun _ => t.name
  | _ => none

/-- The repository interfaces that injection points ask for, each where it is asked for first. -/
def requests (ps : List InjectionPoint) : List String := (ps.filterMap c.requested?).eraseDups

/-- The repository interfaces asked for after one more dependency, which may be none. -/
def request (names : List String) (dependency : String) : List String :=
  if (c.bound? dependency).isSome ∧ dependency ∉ names then names ++ [dependency] else names

/-- The number of the repository that serves an interface. Its proxy comes right behind it. -/
def repositoryNumber (name : String) : Nat :=
  n + c.components.length + 2 * (c.requests c.injectionPoints).idxOf name

/-- The proxy of a repository interface over the object `k`, which the serving type makes. The
entity and its metadata are looked at first, then the repository, then the proxy itself. -/
def proxyOver (k : Nat) (i servant : Definition) : Except ContainerError Bean := do
  let entity ← c.entityOf i
  let _ ← (Metadata.resolve entity.descriptor).mapError .schema
  let made ← servant.madeAs k
  match servant.repositoryTarget.bind (· made), i.proxyFactory with
  | none, _ => .error (.creationFailed servant.name .notARepository)
  | some _, none => .error (.creationFailed i.name .noProxyFactory)
  | some _, some shownAs => .ok ⟨.interface shownAs, ⟨k + 1⟩⟩

/-- The proxy of a repository interface. -/
def proxy (i servant : Definition) : Except ContainerError Bean :=
  c.proxyOver (c.repositoryNumber n i.name) i servant

/-- The bean of a component under its name. -/
def ownBean? (name : String) : Option Bean :=
  (c.get? name).bind fun d => if d.isComponent then (c.componentBean n d).toOption else none

/-- The bean of an interface without a repository root: what the first component that declares a
cast to it casts its own bean to. -/
def lentBean? (name : String) : Option Bean :=
  (c.get? name).bind fun i =>
    if i.descriptor.isInterface ∧ c.repositoryRoot? i = none then
      (provider? c name).bind fun d => (c.ownBean? n d.name).bind (d.castTo name)
    else none

/-- The proxy of a repository interface under its name. -/
def proxyBean? (name : String) : Option Bean :=
  (c.bound? name).bind fun b => (c.proxy n b.1 b.2).toOption

/-- What a name has a bean for before anything is injected. -/
def readyBean? (name : String) : Option Bean := (c.ownBean? n name).or (c.lentBean? n name)

/-- Beans by name when the repository interfaces `names` have been asked for. -/
def stock (names : List String) (name : String) : Option Bean :=
  (c.readyBean? n name).or (if name ∈ names then c.proxyBean? n name else none)

/-- The bean that a dependency of a component is resolved to. -/
def resolved (component dependency : String) : Except ContainerError Bean :=
  match c.bound? dependency with
  | some (i, servant) => c.proxy n i servant
  | none =>
    match c.readyBean? n dependency with
    | some b => .ok b
    | none => .error (.unsatisfiedDependency component dependency)

/-- What serving an injection point records. -/
def served (p : InjectionPoint) : Except ContainerError Injection :=
  match p.method.parameters with
  | [t] =>
    match p.component.injector? p.method.name with
    | none => .error (.wiring p.component.name p.method.name .noInjector)
    | some injector => do
      let target ← c.componentBean n p.component
      let value ← c.resolved n p.component.name t.name
      injector.accept target value
      pure ⟨target.object, injector.slot, value⟩
  | ps => .error (.wiring p.component.name p.method.name (.parameterCount ps.length))

/-- What keeps a component from being made: it has no constructor, or its constructor fails. -/
def creationFault? (d : Definition) : Option ContainerError :=
  match d.constructor with
  | none => some (.creationFailed d.name .noConstructor)
  | some (.error e) => some e
  | some (.ok _) => none

/-- What keeps an interface with a repository root from being bound: no type implements the root, or
several do. -/
def bindingFault? (i : Definition) : Option ContainerError :=
  (c.repositoryRoot? i).bind fun root =>
    match (c.implementations root.name).map Definition.name with
    | [] => some (.implementationNotFound i.name)
    | [_] => none
    | names => some (.ambiguousImplementation i.name names)

/-- What keeps an injection point from being served. -/
def injectionFault? (p : InjectionPoint) : Option ContainerError := fault? (c.served n p)

/-- The first fault: of the components in order, then of the interfaces in order, then of the
injection points in order. -/
def firstFault? : Option ContainerError :=
  (c.components.findSome? creationFault?).or
    ((c.interfaces.findSome? c.bindingFault?).or (c.injectionPoints.findSome? (c.injectionFault? n)))

end Definitions

variable {c : Catalog} {n : Nat}

/-! ## Components -/

theorem place_of_append {done rest : List Definition} {d : Definition}
    (h : done ++ d :: rest = c.components) : c.place d = done.length := by
  have hd := name_not_mem_of_append c.nodup_component_names h
  rw [place, ← h, List.map_append, List.map_cons, List.idxOf_append, if_neg hd,
    List.idxOf_cons_self, List.length_map, Nat.zero_add]

theorem fault?_madeAs (d : Definition) (k : Nat) : fault? (d.madeAs k) = creationFault? d := by
  unfold Definition.madeAs Definition.blueprint creationFault?
  rcases d.constructor with _ | _ | _ <;> rfl

theorem ownBean?_of_mem {d : Definition} (h : d ∈ c.components) :
    c.ownBean? n d.name = (c.componentBean n d).toOption := by
  obtain ⟨hg, hd⟩ := (c.mem_components_iff d).1 h
  simp [ownBean?, hg, hd]

theorem ownBean?_of_interface {d : Definition} (h : d ∈ c.interfaces) :
    c.ownBean? n d.name = none := by
  obtain ⟨hg, hd⟩ := (c.mem_interfaces_iff d).1 h
  simp [ownBean?, hg, Definition.isComponent, hd]

theorem ownBean?_eq_some_iff {name : String} {b : Bean} :
    c.ownBean? n name = some b ↔
      ∃ d ∈ c.components, d.name = name ∧ c.componentBean n d = .ok b := by
  constructor
  · intro h
    simp only [ownBean?, Option.bind_eq_some_iff] at h
    obtain ⟨d, hg, hd⟩ := h
    split at hd
    · rename_i hcomponent
      obtain rfl := name_of_get? hg
      exact ⟨d, (c.mem_components_iff d).2 ⟨hg, hcomponent⟩, rfl, toOption_eq_some_iff.1 hd⟩
    · cases hd
  · rintro ⟨d, hd, rfl, hb⟩
    rw [ownBean?_of_mem hd, toOption_eq_some_iff, hb]

/-! ## Interfaces without a root -/

theorem lentBean?_of_component {d : Definition} (h : d ∈ c.components) :
    c.lentBean? n d.name = none := by
  obtain ⟨hg, hd⟩ := (c.mem_components_iff d).1 h
  simp [lentBean?, hg, d.not_isInterface_of_isComponent hd]

theorem lentBean?_of_root {d root : Definition} (h : d ∈ c.interfaces)
    (hr : c.repositoryRoot? d = some root) : c.lentBean? n d.name = none := by
  obtain ⟨hg, -⟩ := (c.mem_interfaces_iff d).1 h
  simp [lentBean?, hg, hr]

theorem lentBean?_of_no_root {d : Definition} (h : d ∈ c.interfaces)
    (hr : c.repositoryRoot? d = none) :
    c.lentBean? n d.name =
      (provider? c d.name).bind fun p => (c.ownBean? n p.name).bind (p.castTo d.name) := by
  obtain ⟨hg, hd⟩ := (c.mem_interfaces_iff d).1 h
  simp [lentBean?, hg, hr, hd]

theorem lentBean?_eq_some_iff {name : String} {b : Bean} :
    c.lentBean? n name = some b ↔
      ∃ i ∈ c.interfaces, i.name = name ∧ c.repositoryRoot? i = none ∧
        ∃ d own, provider? c name = some d ∧ c.componentBean n d = .ok own ∧
          d.castTo name own = some b := by
  constructor
  · intro h
    simp only [lentBean?, Option.bind_eq_some_iff] at h
    obtain ⟨i, hg, hi⟩ := h
    split at hi
    · rename_i hroot
      obtain rfl := name_of_get? hg
      simp only [Option.bind_eq_some_iff] at hi
      obtain ⟨d, hd, own, hown, hcast⟩ := hi
      rw [ownBean?_of_mem (List.mem_of_find?_eq_some hd), toOption_eq_some_iff] at hown
      exact ⟨i, (c.mem_interfaces_iff i).2 ⟨hg, hroot.1⟩, rfl, hroot.2, d, own, hd, hown, hcast⟩
    · cases hi
  · rintro ⟨i, hi, rfl, hroot, d, own, hd, hown, hcast⟩
    rw [lentBean?_of_no_root hi hroot, hd, Option.bind_some,
      ownBean?_of_mem (List.mem_of_find?_eq_some hd), toOption_eq_some_iff.2 hown,
      Option.bind_some, hcast]

/-! ## Interfaces with a root -/

theorem servant?_eq_some_iff {i d : Definition} :
    c.servant? i = some d ↔
      ∃ root, c.repositoryRoot? i = some root ∧ c.implementations root.name = [d] := by
  simp only [servant?, Option.bind_eq_some_iff]
  refine exists_congr fun root => and_congr_right fun _ => ?_
  split <;> simp_all

theorem get?_of_servant? {i d : Definition} (h : c.servant? i = some d) :
    c.get? d.name = some d := by
  obtain ⟨root, -, himpl⟩ := servant?_eq_some_iff.1 h
  have hd : d ∈ c.implementations root.name := himpl ▸ List.mem_singleton_self d
  rw [implementations, concretes, List.mem_filter, List.mem_filter] at hd
  exact (c.mem_definitions_iff d).1 hd.1.1

/-- An interface with a root is bound to the one type that serves it, and cannot be bound without
one. -/
theorem findImplementation_eq_ok_iff {i root : Definition} {name : String}
    (h : c.repositoryRoot? i = some root) :
    findImplementation c i root = .ok name ↔ ∃ d, c.servant? i = some d ∧ d.name = name := by
  simp only [servant?, h, Option.bind_some, findImplementation]
  split <;> simp_all

theorem fault?_findImplementation {i root : Definition} (h : c.repositoryRoot? i = some root) :
    fault? (findImplementation c i root) = c.bindingFault? i := by
  rw [bindingFault?, h, Option.bind_some, findImplementation]
  rcases c.implementations root.name with _ | ⟨d, _ | ⟨d', rest⟩⟩ <;> rfl

theorem bound?_eq_some_iff {name : String} {i d : Definition} :
    c.bound? name = some (i, d) ↔ i ∈ c.interfaces ∧ i.name = name ∧ c.servant? i = some d := by
  simp only [bound?, Option.bind_eq_some_iff]
  constructor
  · rintro ⟨i', hg, h⟩
    split at h
    · rename_i hi
      obtain ⟨d', hd, he⟩ := Option.map_eq_some_iff.1 h
      cases he
      obtain rfl := name_of_get? hg
      exact ⟨(c.mem_interfaces_iff _).2 ⟨hg, hi⟩, rfl, hd⟩
    · cases h
  · rintro ⟨hm, rfl, hd⟩
    obtain ⟨hg, hi⟩ := (c.mem_interfaces_iff _).1 hm
    exact ⟨i, hg, by simp [hi, hd]⟩

theorem bound?_of_component {d : Definition} (h : d ∈ c.components) : c.bound? d.name = none := by
  obtain ⟨hg, hd⟩ := (c.mem_components_iff d).1 h
  simp [bound?, hg, d.not_isInterface_of_isComponent hd]

theorem bound?_of_no_root {i : Definition} (h : i ∈ c.interfaces)
    (hr : c.repositoryRoot? i = none) : c.bound? i.name = none := by
  obtain ⟨hg, -⟩ := (c.mem_interfaces_iff _).1 h
  simp [bound?, hg, servant?, hr]

theorem readyBean?_of_bound? {name : String} {b : Definition × Definition}
    (h : c.bound? name = some b) : c.readyBean? n name = none := by
  obtain ⟨hi, rfl, hd⟩ := bound?_eq_some_iff.1 (show c.bound? name = some (b.1, b.2) from h)
  obtain ⟨root, hr, -⟩ := servant?_eq_some_iff.1 hd
  rw [readyBean?, ownBean?_of_interface hi, lentBean?_of_root hi hr, Option.or_none]

/-! ## Which repositories are asked for -/

theorem requests_append {pre : List InjectionPoint} {p : InjectionPoint} {t : TypeRef}
    (h : p.method.parameters = [t]) :
    c.requests (pre ++ [p]) = c.request (c.requests pre) t.name := by
  have hp : c.requested? p = (c.bound? t.name).map fun _ => t.name := by rw [requested?, h]
  simp only [request, requests, List.mem_eraseDups, List.filterMap_append, List.eraseDups_append]
  cases hb : c.bound? t.name with
  | none => simp [hp, hb]
  | some b =>
    by_cases hm : t.name ∈ pre.filterMap c.requested?
    · simp [hp, hb, List.removeAll, hm, -List.mem_filterMap]
    · simp [hp, hb, List.removeAll, List.eraseDups_cons, hm, -List.mem_filterMap]

/-- An interface that is asked for first at a point comes behind those asked for in front of it. -/
theorem idxOf_requests {pre post ps : List InjectionPoint} {p : InjectionPoint} {t : TypeRef}
    (hps : pre ++ p :: post = ps) (h : p.method.parameters = [t])
    (hb : (c.bound? t.name).isSome) (hm : t.name ∉ c.requests pre) :
    (c.requests ps).idxOf t.name = (c.requests pre).length := by
  have hsplit : c.requests ps =
      c.requests pre ++ [t.name] ++
        ((post.filterMap c.requested?).removeAll ((pre ++ [p]).filterMap c.requested?)).eraseDups := by
    have hr : c.requests (pre ++ [p]) = _ := requests_append h
    rw [request, if_pos ⟨hb, hm⟩] at hr
    rw [← hr, requests, ← hps, requests, ← List.eraseDups_append, ← List.filterMap_append,
      List.append_assoc, List.singleton_append]
  rw [hsplit, List.append_assoc, List.idxOf_append, if_neg hm, List.singleton_append,
    List.idxOf_cons_self, Nat.zero_add]

theorem mem_requests {ps : List InjectionPoint} {p : InjectionPoint} {t : TypeRef}
    (hp : p ∈ ps) (ht : p.method.parameters = [t]) (hb : (c.bound? t.name).isSome) :
    t.name ∈ c.requests ps := by
  rw [requests, List.mem_eraseDups, List.mem_filterMap]
  refine ⟨p, hp, ?_⟩
  rw [requested?, ht]
  obtain ⟨b, hb⟩ := Option.isSome_iff_exists.1 hb
  simp [hb]

/-! ## Proxies -/

theorem entityOf_eq_ok_iff {i entity : Definition} :
    c.entityOf i = .ok entity ↔ ∃ id t rest,
      i.descriptor.typeArguments = id :: t :: rest ∧ c.get? t.name = some entity := by
  unfold entityOf
  constructor
  · intro h
    split at h
    · rename_i id t rest hargs
      split at h
      · rename_i hg
        cases h
        exact ⟨id, t, rest, hargs, hg⟩
      · cases h
    · cases h
  · rintro ⟨id, t, rest, hargs, hg⟩
    rw [hargs]
    simp only [hg]

theorem proxyOver_eq_ok_iff {k : Nat} {i servant : Definition} {b : Bean} :
    c.proxyOver k i servant = .ok b ↔ ∃ entity m made target shownAs,
      c.entityOf i = .ok entity ∧ Metadata.resolve entity.descriptor = .ok m ∧
      servant.madeAs k = .ok made ∧ servant.repositoryTarget.bind (· made) = some target ∧
      i.proxyFactory = some shownAs ∧ b = ⟨.interface shownAs, ⟨k + 1⟩⟩ := by
  unfold proxyOver
  simp only [bind_eq_ok_iff, mapError_eq_ok_iff]
  constructor
  · rintro ⟨entity, hentity, m, hm, made, hmade, h⟩
    split at h
    · cases h
    · cases h
    · rename_i target shownAs htarget hfactory
      cases h
      exact ⟨entity, m, made, target, shownAs, hentity, hm, hmade, htarget, hfactory, rfl⟩
  · rintro ⟨entity, m, made, target, shownAs, hentity, hm, hmade, htarget, hfactory, rfl⟩
    refine ⟨entity, hentity, m, hm, made, hmade, ?_⟩
    rw [htarget, hfactory]

theorem proxyBean?_eq_some_iff {name : String} {d servant : Definition} {b : Bean}
    (h : c.bound? name = some (d, servant)) :
    c.proxyBean? n name = some b ↔ c.proxy n d servant = .ok b := by
  rw [proxyBean?, h, Option.bind_some, toOption_eq_some_iff]

theorem stock_of_bound? {name : String} {b : Definition × Definition}
    (h : c.bound? name = some b) (names : List String) :
    c.stock n names name = if name ∈ names then c.proxyBean? n name else none := by
  rw [stock, readyBean?_of_bound? h, Option.none_or]

theorem stock_of_not_bound? {name : String} (h : c.bound? name = none) (names : List String) :
    c.stock n names name = c.readyBean? n name := by
  rw [stock, proxyBean?, h, Option.bind_none, ite_self, Option.or_none]

theorem stock_append (names : List String) (name name' : String) :
    c.stock n (names ++ [name]) name' =
      (c.stock n names name').or (if name' = name then c.proxyBean? n name' else none) := by
  rw [stock, stock, Option.or_assoc, ite_or_ite]
  simp only [List.mem_append, List.mem_singleton]

theorem stock_of_component {names : List String} {d : Definition} {b : Bean}
    (hd : d ∈ c.components) (hb : c.componentBean n d = .ok b) :
    c.stock n names d.name = some b := by
  rw [stock_of_not_bound? (bound?_of_component hd), readyBean?, ownBean?_of_mem hd, hb]
  rfl

/-! ## Dependencies -/

/-- A dependency that was resolved is in stock. -/
theorem stock_of_resolved {names : List String} {component name : String} {b : Bean}
    (h : c.resolved n component name = .ok b) (hn : (c.bound? name).isSome → name ∈ names) :
    c.stock n names name = some b := by
  unfold resolved at h
  split at h
  · rename_i d servant hbound
    obtain ⟨-, rfl, -⟩ := bound?_eq_some_iff.1 hbound
    rw [stock_of_bound? hbound, if_pos (hn (by rw [hbound]; rfl)),
      (proxyBean?_eq_some_iff hbound).2 h]
  · rename_i hbound
    rw [stock_of_not_bound? hbound]
    split at h
    · rename_i hready
      cases h
      exact hready
    · cases h

theorem served_eq_ok_iff {p : InjectionPoint} {x : Injection} :
    c.served n p = .ok x ↔ ∃ t injector target value,
      p.method.parameters = [t] ∧ p.component.injector? p.method.name = some injector ∧
      c.componentBean n p.component = .ok target ∧
      c.resolved n p.component.name t.name = .ok value ∧ injector.accept target value = .ok () ∧
      x = ⟨target.object, injector.slot, value⟩ := by
  unfold served
  constructor
  · intro h
    split at h
    · rename_i t ht
      split at h
      · cases h
      · rename_i injector hinjector
        simp only [bind_eq_ok_iff] at h
        obtain ⟨target, htarget, value, hvalue, ⟨⟩, haccept, hx⟩ := h
        cases hx
        exact ⟨t, injector, target, value, ht, hinjector, htarget, hvalue, haccept, rfl⟩
    · cases h
  · rintro ⟨t, injector, target, value, ht, hinjector, htarget, hvalue, haccept, rfl⟩
    rw [ht]
    simp only [hinjector, bind_eq_ok_iff]
    exact ⟨target, htarget, value, hvalue, (), haccept, rfl⟩

theorem served_of_parameters {p : InjectionPoint} (h : ∀ t, p.method.parameters ≠ [t]) :
    c.served n p = .error
      (.wiring p.component.name p.method.name (.parameterCount p.method.parameters.length)) := by
  unfold served
  split
  · rename_i t ht
    exact absurd ht (h t)
  · rfl

/-- Where a point has one parameter and a setter, what is left to go wrong is to find the dependency
and to have it taken. -/
theorem injectionFault?_of_injector {p : InjectionPoint} {t : TypeRef} {injector : Injector}
    {target : Bean} (ht : p.method.parameters = [t])
    (hinjector : p.component.injector? p.method.name = some injector)
    (htarget : c.componentBean n p.component = .ok target) :
    c.injectionFault? n p =
      fault? (c.resolved n p.component.name t.name >>= injector.accept target) := by
  unfold injectionFault? served
  rw [ht]
  simp only [hinjector, htarget]
  cases c.resolved n p.component.name t.name with
  | error e => rfl
  | ok value =>
    change fault? (injector.accept target value >>= _) = fault? (injector.accept target value)
    cases injector.accept target value <;> rfl

end Catalog
end BeanKit
