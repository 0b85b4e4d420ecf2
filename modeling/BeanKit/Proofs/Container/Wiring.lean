import BeanKit.Proofs.Container.Startup
import Mathlib.Data.List.Forall2
/-! # Wiring comes to its forecast

The injection points are served in order. What holds before a point is told by the points in front
of it: the repository interfaces that they have asked for have their proxies, and what they have
injected is on record. -/

namespace BeanKit

variable {c : Catalog} {i : Instances} {s : Stage}

/-! ## A proxy is built -/

theorem Catalog.require_of_get? {name : String} {d : Definition} (h : c.get? name = some d) :
    c.require name = .ok d := by rw [require, h]

/-- What building a proxy answers at a stage. The interface is looked at first, then the
implementation, the entity, its metadata as the cache has them, the new object, what it is taken for, and
the proxy factory last. -/
def Catalog.proxyFrom (c : Catalog) (s : Stage) (interface implementation : String) :
    Except ContainerError Bean := do
  let i ← c.require interface
  let servant ← c.require implementation
  let entity ← c.entityOf i
  let _ ← (s.cache.metadata entity.descriptor).mapError .schema
  let made ← servant.madeAs s.instances.objects.length
  match servant.repositoryTarget.bind (· made), i.proxyFactory with
  | none, _ => .error (.creationFailed implementation .notARepository)
  | some _, none => .error (.creationFailed interface .noProxyFactory)
  | some _, some shownAs => .ok ⟨.interface shownAs, ⟨s.instances.objects.length + 1⟩⟩

/-- A proxy is built over the next object, and stands right behind it. The cache has answered for an
entity of the catalog. -/
theorem buildProxy_answers_proxyFrom (c : Catalog) (s : Stage) (interface implementation : String) :
    (c.buildProxy interface implementation).Answers s (c.proxyFrom s interface implementation)
      fun t => s.Grows 2 t ∧
        ∃ entity, c.get? entity.name = some entity ∧
          t.cache = (s.cache.resolve entity.descriptor).2 := by
  unfold Catalog.buildProxy Catalog.proxyFrom
  refine Build.Answers.bind (Build.answers_lift _ s) fun i t _ ht => ?_
  subst ht
  refine Build.Answers.bind (Build.answers_lift _ s) fun servant t _ ht => ?_
  subst ht
  refine Build.Answers.bind (Build.answers_lift _ s) fun entity t he ht => ?_
  subst ht
  obtain ⟨-, _, -, -, hentity⟩ := Catalog.entityOf_eq_ok_iff.1 he
  rw [← Catalog.name_of_get? hentity] at hentity
  refine (metadata_answers entity.descriptor s).bind fun m t _ ht => ?_
  obtain ⟨hgt, hct⟩ := ht
  rw [show s.instances.objects.length = t.instances.objects.length from hgt.objects.symm]
  refine (servant.instantiate_answers t).bind fun made u _ hu => ?_
  obtain ⟨hgu, hcu⟩ := hu
  cases servant.repositoryTarget.bind (· made) with
  | none => exact Build.answers_of_exec (Build.exec_throw ..) fun _ h => nomatch h
  | some target =>
    cases i.proxyFactory with
    | none => exact Build.answers_of_exec rfl fun _ h => nomatch h
    | some shownAs =>
      have hlen : t.instances.objects.length + 1 = (u.instances.bind target m).objects.length := by
        rw [Instances.length_bind, hgu.objects]
      rw [hlen]
      exact Build.answers_of_exec rfl fun _ _ =>
        ⟨(hgt.trans hgu).trans (u.grows_bind_make ..), entity, hentity, hcu.trans hct⟩

/-- With the cache of a catalog, the proxy is the one that is forecast. -/
theorem proxyFrom_of_cacheOf {d servant : Definition} (hd : c.get? d.name = some d)
    (hs : c.get? servant.name = some servant) (hc : CacheOf c s.cache) :
    c.proxyFrom s d.name servant.name = c.proxyOver s.instances.objects.length d servant := by
  unfold Catalog.proxyFrom Catalog.proxyOver
  rw [Catalog.require_of_get? hd, Catalog.require_of_get? hs]
  change (c.entityOf d >>= _) = _
  cases he : c.entityOf d with
  | error e => rfl
  | ok entity =>
    obtain ⟨-, _, -, -, hentity⟩ := Catalog.entityOf_eq_ok_iff.1 he
    rw [← Catalog.name_of_get? hentity] at hentity
    change ((s.cache.metadata entity.descriptor).mapError ContainerError.schema >>= _) = _
    rw [(hc.resolve hentity).1]
    rfl

theorem buildProxy_answers {d servant : Definition} (hd : c.get? d.name = some d)
    (hs : c.get? servant.name = some servant) (hc : CacheOf c s.cache) :
    (c.buildProxy d.name servant.name).Answers s
      (c.proxyOver s.instances.objects.length d servant) fun t =>
        s.Grows 2 t ∧ CacheOf c t.cache := by
  have hanswers := buildProxy_answers_proxyFrom c s d.name servant.name
  rw [proxyFrom_of_cacheOf hd hs hc] at hanswers
  refine hanswers.mono fun _ t _ ht => ?_
  obtain ⟨hgrows, entity, hentity, hcache⟩ := ht
  exact ⟨hgrows, hcache ▸ (hc.resolve hentity).2⟩

/-! ## A dependency is resolved -/

/-- Where wiring stands when the repository interfaces `names` have been asked for: every one of
them has its proxy. -/
structure Stocked (c : Catalog) (i : Instances) (names : List String) (log : List Injection)
    (s : Stage) : Prop where
  stands : Stands c i (c.stock i.objects.length names) (c.components.length + 2 * names.length)
    log s
  built : ∀ name ∈ names, ∃ b, c.proxyBean? i.objects.length name = some b

theorem Stocked.inject {names : List String} {log : List Injection} (h : Stocked c i names log s)
    (x : Injection) :
    Stocked c i names (log ++ [x]) { s with instances := s.instances.inject x } where
  stands :=
    { h.stands with
      injections := by rw [Instances.inject, h.stands.injections, List.append_assoc] }
  built := h.built

/-- One more repository interface has its proxy. -/
theorem Stocked.build {names : List String} {log : List Injection} {u : Stage} {name : String}
    {b : Bean} (h : Stocked c i names log s) (hg : s.Grows 2 u) (hc : CacheOf c u.cache)
    (hb : c.proxyBean? i.objects.length name = some b) :
    Stocked c i (names ++ [name]) log (u.fill name b) where
  stands := by
    rw [List.length_append, List.length_singleton, Nat.mul_add, ← Nat.add_assoc]
    exact ((h.stands.grow hg hc).write hb).congr fun _ => (Catalog.stock_append ..).symm
  built name' hm := by
    rcases List.mem_append.1 hm with hm | hm
    · exact h.built name' hm
    · exact ⟨b, List.mem_singleton.1 hm ▸ hb⟩

/-- A bound interface has its proxy, or is the next one to be given it. -/
theorem resolveBound_answers {names : List String} {log : List Injection} {d servant : Definition}
    (hbound : c.bound? d.name = some (d, servant)) (hs : Stocked c i names log s)
    (hnext : d.name ∉ names → (c.requests c.injectionPoints).idxOf d.name = names.length) :
    (c.resolveBound d.name servant.name).Answers s (c.proxy i.objects.length d servant) fun t =>
      Stocked c i (c.request names d.name) log t := by
  obtain ⟨hd, -, hservant⟩ := Catalog.bound?_eq_some_iff.1 hbound
  have hreg := hs.stands.registry d.name
  rw [Catalog.stock_of_bound? hbound] at hreg
  by_cases hm : d.name ∈ names
  · -- An earlier point has asked for it: the proxy is shared.
    obtain ⟨b, hproxy⟩ := hs.built d.name hm
    rw [if_pos hm, hproxy] at hreg
    rw [Catalog.request, if_neg (fun h => h.2 hm), (Catalog.proxyBean?_eq_some_iff hbound).1 hproxy]
    refine (Build.yields_getOrCreate_present _ hreg).mono ?_
    rintro b' t ⟨rfl, rfl⟩
    exact ⟨rfl, hs⟩
  · -- Nobody has: the next object is the repository that the forecast numbers.
    rw [if_neg hm] at hreg
    have hnumber : c.proxyOver s.instances.objects.length d servant =
        c.proxy i.objects.length d servant := by
      rw [Catalog.proxy, Catalog.repositoryNumber, hnext hm, hs.stands.objects, Nat.add_assoc]
    rw [Catalog.request, if_pos ⟨by rw [hbound]; rfl, hm⟩, ← hnumber]
    refine (Build.yields_getOrCreate_absent hreg (buildProxy_answers (s := s.reserve d.name)
      ((c.mem_interfaces_iff d).1 hd).1 (Catalog.get?_of_servant? hservant) hs.stands.cache)).mono ?_
    rintro b t ⟨u, ⟨hproxy, hgrow, hcache⟩, rfl⟩
    exact ⟨hproxy, hs.build hgrow.of_reserve hcache
      ((Catalog.proxyBean?_eq_some_iff hbound).2 (hnumber ▸ hproxy))⟩

/-- A dependency is resolved as the forecast says, if its proxy is the next one to be built in case
that it has none yet. -/
theorem resolveDependency_answers {names : List String} {log : List Injection}
    {bindings : Bindings} {name : String}
    (hb : bindings.get? name = (c.bound? name).map (·.2.name)) (hs : Stocked c i names log s)
    (hnext : (c.bound? name).isSome → name ∉ names →
      (c.requests c.injectionPoints).idxOf name = names.length) (component : String) :
    (resolveDependency c bindings component name).Answers s
      (c.resolved i.objects.length component name) fun t =>
        Stocked c i (c.request names name) log t := by
  unfold resolveDependency Catalog.resolved
  rw [hb]
  cases hbound : c.bound? name with
  | none =>
    have hreg := hs.stands.registry name
    rw [Catalog.stock_of_not_bound? hbound] at hreg
    rw [Catalog.request, if_neg (by simp [hbound])]
    refine Build.answers_of_exec (t := s) ?_ fun _ _ => hs
    simp only [Option.map_none, Build.exec_bind, Build.exec_get, hreg]
    cases c.readyBean? i.objects.length name <;> rfl
  | some b =>
    obtain ⟨-, rfl, -⟩ := Catalog.bound?_eq_some_iff.1 (show _ = some (b.1, b.2) from hbound)
    exact resolveBound_answers hbound hs (hnext (by rw [hbound]; rfl))

/-! ## The injection points are served -/

/-- Where wiring stands behind the injection points `pre`: they have been served, and `log` is what
that has put on record. -/
structure Wired (c : Catalog) (i : Instances) (pre : List InjectionPoint) (log : List Injection)
    (s : Stage) : Prop where
  stocked : Stocked c i (c.requests pre) log s
  served : List.Forall₂ (fun p x => c.served i.objects.length p = .ok x) pre log

/-- The implementation of each interface, as bound in a catalog. -/
def BindingsOf (c : Catalog) (bindings : Bindings) : Prop :=
  ∀ name, bindings.get? name = (c.bound? name).map (·.2.name)

variable {bindings : Bindings} {target : Bean} {d : Definition}

/-- Resolving a dependency and handing it to a setter. -/
theorem resolve_run_answers {names : List String} {log : List Injection} {dependency : String}
    (hb : BindingsOf c bindings) (hs : Stocked c i names log s)
    (hnext : (c.bound? dependency).isSome → dependency ∉ names →
      (c.requests c.injectionPoints).idxOf dependency = names.length) (component : String)
    (injector : Injector) (target : Bean) :
    (resolveDependency c bindings component dependency >>= injector.run target).Answers s
      (c.resolved i.objects.length component dependency >>= injector.accept target) fun t =>
        ∃ value, c.resolved i.objects.length component dependency = .ok value ∧
          injector.accept target value = .ok () ∧
          Stocked c i (c.request names dependency)
            (log ++ [⟨target.object, injector.slot, value⟩]) t := by
  refine (resolveDependency_answers (hb dependency) hs hnext component).bind
    fun value t hvalue ht => (injector.run_answers target value t).mono fun _ u haccept hu => ?_
  exact ⟨value, hvalue, haccept, hu ▸ ht.inject _⟩

theorem wireMethod_yields {pre post : List InjectionPoint} {log : List Injection} {m : Method}
    (hb : BindingsOf c bindings) (ht : c.componentBean i.objects.length d = .ok target)
    (hp : pre ++ ⟨d, m⟩ :: post = c.injectionPoints) (hw : Wired c i pre log s) :
    (wireMethod c bindings d target m).Yields s (c.injectionFault? i.objects.length ⟨d, m⟩)
      fun _ t => ∃ x, Wired c i (pre ++ [⟨d, m⟩]) (log ++ [x]) t := by
  unfold wireMethod
  split
  · rename_i dependency hparams
    have hone : (InjectionPoint.mk d m).method.parameters = [dependency] := hparams
    cases hinjector : d.injector? m.name with
    | none =>
      rw [Catalog.injectionFault?, Catalog.served, hone]
      simp only [hinjector]
      exact Build.yields_fault_of_exec (Build.exec_throw ..)
    | some injector =>
      rw [Catalog.injectionFault?_of_injector hone hinjector ht]
      refine Build.Yields.mono (resolve_run_answers hb hw.stocked (Catalog.idxOf_requests hp hone)
        d.name injector target) fun _ t ⟨_, value, hvalue, haccept, hst⟩ => ?_
      refine ⟨⟨target.object, injector.slot, value⟩, ?_, List.rel_append hw.served (.cons ?_ .nil)⟩
      · exact Catalog.requests_append hone ▸ hst
      · exact Catalog.served_eq_ok_iff.2
          ⟨dependency, injector, target, value, hone, hinjector, ht, hvalue, haccept, rfl⟩
  · rename_i hparams
    rw [Catalog.injectionFault?, Catalog.served_of_parameters hparams]
    exact Build.yields_fault_of_exec (Build.exec_throw ..)

theorem wireMethods_yields {ms : List Method} {pre post : List InjectionPoint}
    {log : List Injection} (hb : BindingsOf c bindings)
    (ht : c.componentBean i.objects.length d = .ok target)
    (hp : pre ++ (ms.map (⟨d, ·⟩) ++ post) = c.injectionPoints) (hw : Wired c i pre log s)
    (count : Nat) :
    (wireMethods c bindings d target count ms).Yields s
      ((ms.map (⟨d, ·⟩)).findSome? (c.injectionFault? i.objects.length))
      fun _ t => ∃ log', Wired c i (pre ++ ms.map (⟨d, ·⟩)) log' t := by
  induction ms generalizing pre log s count with
  | nil => exact Build.yields_of_exec (Build.exec_pure ..) ⟨log, by simpa using hw⟩
  | cons m rest ih =>
    rw [List.map_cons, findSome?_cons_or]
    refine (wireMethod_yields hb ht hp hw).bind fun _ _ t ⟨x, hx⟩ => ?_
    have hnext : (pre ++ [⟨d, m⟩]) ++ (rest.map (⟨d, ·⟩) ++ post) = c.injectionPoints := by
      simpa using hp
    simpa using ih hnext hx (count + 1)

/-- The components of a catalog, served in turn: each has a bean, so it is never missing. -/
theorem wireComponents_yields {ds : List Definition} {pre : List InjectionPoint}
    {log : List Injection} (hb : BindingsOf c bindings)
    (hds : ∀ d ∈ ds, d ∈ c.components ∧ ∃ b, c.componentBean i.objects.length d = .ok b)
    (hp : pre ++ ds.flatMap Definition.injectionPoints = c.injectionPoints)
    (hw : Wired c i pre log s) (count : Nat) :
    (wireComponents c bindings count ds).Yields s
      ((ds.flatMap Definition.injectionPoints).findSome? (c.injectionFault? i.objects.length))
      fun _ t => ∃ log', Wired c i (pre ++ ds.flatMap Definition.injectionPoints) log' t := by
  induction ds generalizing pre log s count with
  | nil => exact Build.yields_of_exec (Build.exec_pure ..) ⟨log, by simpa using hw⟩
  | cons d rest ih =>
    obtain ⟨⟨hd, target, htarget⟩, hrest⟩ := List.forall_mem_cons.1 hds
    have hreg : s.registry.get? d.name = some target := by
      rw [hw.stocked.stands.registry, Catalog.stock_of_component hd htarget]
    rw [List.flatMap_cons] at hp
    have hnext : (pre ++ d.injectionPoints) ++ rest.flatMap Definition.injectionPoints =
        c.injectionPoints := by rw [List.append_assoc, hp]
    have hwire := (wireMethods_yields hb htarget hp hw count).bind fun _ count t ⟨log', ht⟩ =>
      ih hrest hnext ht count
    rw [List.flatMap_cons, List.findSome?_append]
    rw [List.append_assoc] at hwire
    refine hwire.congr ?_
    simp only [wireComponents, Build.exec_bind, Build.exec_get, hreg]

/-! ## The whole start-up -/

theorem bindingsOf_of_entries {bindings : Bindings}
    (h : bindings.entries = c.interfaces.filterMap c.binding?) : BindingsOf c bindings := by
  intro name
  refine Option.ext fun implementation => ?_
  rw [OrderedMap.get?_eq_some_iff, h, List.mem_filterMap, Option.map_eq_some_iff]
  constructor
  · rintro ⟨d, hd, hbind⟩
    obtain ⟨servant, hservant, he⟩ := Option.map_eq_some_iff.1 hbind
    cases he
    exact ⟨(d, servant), Catalog.bound?_eq_some_iff.2 ⟨hd, rfl, hservant⟩, rfl⟩
  · rintro ⟨⟨d, servant⟩, hbound, rfl⟩
    obtain ⟨hd, rfl, hservant⟩ := Catalog.bound?_eq_some_iff.1 hbound
    exact ⟨d, hd, by rw [Catalog.binding?, hservant, Option.map_some]⟩

/-- What a container knows once it has started, and where it then stands. -/
structure Started (c : Catalog) (i : Instances) (x : Context) (log : List Injection) (s : Stage) :
    Prop where
  catalog : x.catalog = c
  bindings : x.bindings.entries = c.interfaces.filterMap c.binding?
  wired : Wired c i c.injectionPoints log s

/-- A container that starts over a fresh registry and cache comes to its forecast. -/
theorem bootstrap_yields (c : Catalog) (i : Instances) :
    (bootstrap c).Yields { instances := i } (c.firstFault? i.objects.length) fun x s =>
      ∃ log, Started c i x log s := by
  have hmake : (makeComponents c.components).Yields { instances := i } _ _ :=
    makeComponents_yields (List.nil_append _) (stands_start c i)
  refine hmake.bind fun hcreated _ s hs => ?_
  have hbind : (bindInterfaces c .empty c.interfaces).Yields s _ _ :=
    bindInterfaces_yields (List.nil_append _) rfl (hs.congr fun _ => (Option.or_none ..).symm)
  refine hbind.bind fun _ bindings t hbound => ?_
  obtain ⟨hentries, ht⟩ := hbound
  -- Without a creation fault every component has its bean, so wiring finds every target.
  have hmade : ∀ d ∈ c.components, d ∈ c.components ∧
      ∃ b, c.componentBean i.objects.length d = .ok b := by
    intro d hd
    refine ⟨hd, (fault?_eq_none_iff _).1 ?_⟩
    rw [Catalog.componentBean, Catalog.fault?_madeAs]
    exact List.findSome?_eq_none_iff.1 hcreated d hd
  have hstart : Wired c i [] [] t :=
    ⟨⟨ht.congr fun _ => (Option.or_none ..).symm, fun _ hm => absurd hm List.not_mem_nil⟩, .nil⟩
  have hwire := wireComponents_yields (bindingsOf_of_entries hentries) hmade (List.nil_append _)
    hstart 0
  refine hwire.bind_pure fun _ u hwired => ?_
  obtain ⟨log, hu⟩ := hwired
  exact ⟨log, rfl, hentries, hu⟩

end BeanKit
