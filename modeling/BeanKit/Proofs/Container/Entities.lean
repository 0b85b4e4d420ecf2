import BeanKit.Proofs.Container.Kept
import BeanKit.Proofs.Query.Statements
import BeanKit.Proofs.Repository.Mapping
import Mathlib
/-! # A proxy speaks for one entity

Many repository interfaces can share one implementation, whose objects take the first metadata that
they are given and no other. Every interface still gets the statements of its own entity: its proxy is
made right behind a repository of its own, which is bound to what the proxy is made for, and nothing
that is done later unbinds it. -/

namespace BeanKit

open BeanKit.Query

variable {c : Catalog} {d servant entity : Definition} {i j : Instances} {b : Bean} {m : Metadata}

/-! ## Statements of a table -/

/-- A statement that names a table: the name stands behind the verb, and nothing is glued to it. -/
def Query.About (table statement : String) : Prop :=
  ∃ verb ∈ ["SELECT * FROM ", "INSERT INTO ", "UPDATE ", "DELETE FROM "], ∃ rest,
    (rest = "" ∨ ∃ more, rest = " " ++ more) ∧ statement = verb ++ table ++ rest

theorem about_selectText {filter : String} (table : String)
    (h : filter = "" ∨ ∃ more, filter = " " ++ more) : About table (selectText table filter) :=
  ⟨"SELECT * FROM ", by simp, filter, h, rfl⟩

theorem filterById_eq (column id : String) :
    filterById column id = " " ++ ("WHERE " ++ column ++ " = " ++ quoted id) := by
  simp only [filterById, show " WHERE " = " " ++ "WHERE " from rfl, String.append_assoc]

theorem about_insertText (table : String) (values : ColumnValues) :
    About table (insertText table values) := by
  refine ⟨"INSERT INTO ", by simp, " " ++ ("(" ++ ", ".intercalate values.keys ++ ") VALUES (" ++
    ", ".intercalate (values.values.map quoted) ++ ")"), .inr ⟨_, rfl⟩, ?_⟩
  delta insertText
  simp only [show " (" = " " ++ "(" from rfl, String.append_assoc]

theorem about_updateText (table : String) (values : ColumnValues) (filter : String) :
    About table (updateText table values ++ filter) := by
  refine ⟨"UPDATE ", by simp, " " ++ ("SET " ++
    ", ".intercalate (values.entries.map fun e => e.1 ++ " = " ++ quoted e.2) ++ filter),
    .inr ⟨_, rfl⟩, ?_⟩
  simp only [updateText, show " SET " = " " ++ "SET " from rfl, String.append_assoc]

namespace Repository

variable {r : Repository} {statement : String}

theorem about_getOne (h : r.metadata = some m) {id : Value} (hs : r.getOne id = .ok statement) :
    About m.table statement := by
  rw [getOne, withMetadata_of_bound h] at hs
  cases hs
  exact about_selectText m.table (.inr ⟨_, filterById_eq ..⟩)

theorem about_delete (h : r.metadata = some m) {id : Value} (hs : r.delete id = .ok statement) :
    About m.table statement := by
  rw [delete, withMetadata_of_bound h] at hs
  cases hs
  exact ⟨"DELETE FROM ", by simp, _, .inr ⟨_, filterById_eq ..⟩, rfl⟩

theorem about_listAll (h : r.metadata = some m) (hs : r.listAll = .ok statement) :
    About m.table statement := by
  rw [listAll, withMetadata_of_bound h] at hs
  cases hs
  exact about_selectText m.table (.inl rfl)

theorem about_find (h : r.metadata = some m) {method : String} {args : List Value}
    (hs : r.find method args = .ok statement) : About m.table statement := by
  rw [find, withMetadata_of_bound h] at hs
  obtain ⟨p, -, rfl⟩ := map_eq_ok_iff.1 hs
  refine about_selectText m.table (.inr ⟨"WHERE" ++ p, ?_⟩)
  rw [show " WHERE" = " " ++ "WHERE" from rfl, String.append_assoc]

theorem about_save (h : r.metadata = some m) {values : List (String × Value)}
    (hs : r.save values = .ok statement) : About m.table statement := by
  rw [save, withMetadata_of_bound h, saveText] at hs
  split at hs
  · obtain ⟨-, -, rfl⟩ := map_eq_ok_iff.1 hs
    exact about_insertText ..
  · obtain ⟨_, hupdate, rfl⟩ := map_eq_ok_iff.1 hs
    obtain ⟨-, -, rfl⟩ := map_eq_ok_iff.1 hupdate
    exact about_updateText ..

theorem about_invoke (h : r.metadata = some m) {method : String} {args : List Value}
    (hs : r.invoke method args = .ok statement) : About m.table statement := by
  unfold invoke withId at hs
  split at hs
  · split at hs
    · exact about_getOne h hs
    · cases hs
  split at hs
  · split at hs
    · exact about_delete h hs
    · cases hs
  split at hs
  · exact about_listAll h hs
  · cases hs

end Repository

/-- Whatever a proxy over a bound repository is called with, its statements name the repository's
table. -/
theorem about_of_answer {p : Proxy} (h : p.target.metadata = some m) {call : RepositoryCall}
    {statement : String} (hs : call.answer p = .ok statement) : About m.table statement := by
  have hinvoke {method args} (hs : p.invoke method args = .ok statement) : About m.table statement := by
    unfold Proxy.invoke at hs
    split at hs
    · exact Repository.about_find h hs
    · exact Repository.about_invoke h hs
  cases call with
  | save values => exact Repository.about_save h hs
  | getOne id => exact hinvoke (show p.invoke "getOne" [id] = _ from hs)
  | delete id => exact hinvoke (show p.invoke "delete" [id] = _ from hs)
  | listAll => exact hinvoke (show p.invoke "listAll" [] = _ from hs)
  | invoke method args => exact hinvoke hs

/-! ## A proxy and its repository -/

/-- A type that makes a repository that nobody has bound, every time, and takes its objects for
repositories as what they are. -/
structure Definition.MakesRepositories (d : Definition) : Prop where
  constructor : d.constructor = some (.ok .repository)
  target : ∀ hook b id, d.repositoryTarget = some hook → hook b = some id → id = b.object

/-- The proxy `b` of a repository interface stands right behind its own repository, the object `k`:
both have the metadata of the interface's entity. -/
structure Catalog.Speaks (c : Catalog) (d : Definition) (i : Instances) (b : Bean)
    (entity : Definition) (m : Metadata) (k : Nat) : Prop where
  declared : c.entityOf d = .ok entity
  metadata : Metadata.resolve entity.descriptor = .ok m
  object : b.object = ⟨k + 1⟩
  proxy : ∃ shownAs, i.get? ⟨k + 1⟩ = some ⟨d.name, .proxy shownAs ⟨k⟩ m⟩
  repository : ∃ origin, i.get? ⟨k⟩ = some ⟨origin, .repository ⟨some m⟩⟩

/-- Objects that have come to what they are stay so. -/
def Instances.Settles (i j : Instances) : Prop :=
  ∀ id o, o.nature.isSettled → i.get? id = some o → j.get? id = some o

theorem Instances.Settles.refl (i : Instances) : i.Settles i := fun _ _ _ h => h

theorem Instances.settles_make (i : Instances) (o : Object) : i.Settles (i.make o).2 :=
  fun _ _ _ h => get?_make_of_get? h o

theorem Instances.settles_bind (i : Instances) (target : ObjectId) (m : Metadata) :
    i.Settles (i.bind target m) := fun _ _ ho h => get?_bind_of_settled h ho target m

theorem Instances.Settles.trans {l : Instances} (h : i.Settles j) (h' : j.Settles l) :
    i.Settles l := fun id o ho hi => h' id o ho (h id o ho hi)

theorem Catalog.Ends.settles {r : Except ContainerError Bean} (h : c.Ends d servant i r j) :
    i.Settles j := by
  cases h with
  | unserved _ => exact fun _ _ _ h => h
  | unfit _ _ => exact i.settles_make _
  | unshown _ target m _ => exact (i.settles_make _).trans (Instances.settles_bind _ _ _)
  | shown _ _ _ _ _ =>
    exact ((i.settles_make _).trans (Instances.settles_bind _ _ _)).trans (Instances.settles_make _ _)

theorem Catalog.Speaks.mono {k : Nat} (h : c.Speaks d i b entity m k) (hij : i.Settles j) :
    c.Speaks d j b entity m k where
  declared := h.declared
  metadata := h.metadata
  object := h.object
  proxy := by
    obtain ⟨shownAs, hproxy⟩ := h.proxy
    exact ⟨shownAs, hij _ _ rfl hproxy⟩
  repository := by
    obtain ⟨origin, hrepository⟩ := h.repository
    exact ⟨origin, hij _ _ rfl hrepository⟩

/-- A proxy that is built speaks for the entity of its interface: the repository is the next object,
so nobody has bound it before. -/
theorem Catalog.Ends.speaks (hs : servant.MakesRepositories) (h : c.Ends d servant i (.ok b) j) :
    ∃ entity m, c.Speaks d j b entity m i.objects.length := by
  cases h with
  | @shown entity m blueprint target shownAs hentity hm hblueprint htarget hfactory =>
    obtain rfl : Blueprint.repository = blueprint := by
      rw [Definition.blueprint, hs.constructor] at hblueprint
      exact Except.ok.inj hblueprint
    obtain ⟨hook, hhook, hid⟩ := Option.bind_eq_some_iff.1 htarget
    obtain rfl := hs.target hook _ target hhook hid
    refine ⟨entity, m, hentity, hm, rfl, ⟨shownAs, ?_⟩, ⟨servant.name, ?_⟩⟩
    -- Binding the repository has not changed how many objects there are, so the proxy is the next.
    · have hself := ((i.make ⟨servant.name, .repository {}⟩).2.bind ⟨i.objects.length⟩ m).get?_make_self
        ⟨d.name, .proxy shownAs ⟨i.objects.length⟩ m⟩
      rwa [Instances.length_bind, Instances.length_make] at hself
    · refine Instances.get?_make_of_get? ?_ _
      exact Instances.get?_bind_repository (i.get?_make_self ⟨servant.name, .repository {}⟩) m

/-! ## Every proxy speaks for its entity -/

/-- A stage at which every repository interface that has its proxy is spoken for. -/
structure Spoken (c : Catalog) (s : Stage) : Prop where
  cache : CacheOf c s.cache
  proxies : ∀ {d servant b}, c.bound? d.name = some (d, servant) → s.registry.get? d.name = some b →
    ∃ entity m k, c.Speaks d s.instances b entity m k

variable {s t : Stage}

theorem spoken_start (c : Catalog) (i : Instances) : Spoken c { instances := i } where
  cache := cacheOf_empty c
  proxies _ hb := nomatch hb

/-- Nothing that leaves the bound interfaces alone takes a proxy's words away. -/
theorem Spoken.of_settles (h : Spoken c s) (hc : CacheOf c t.cache)
    (hi : s.instances.Settles t.instances)
    (hreg : ∀ name, (c.bound? name).isSome → t.registry.get? name = s.registry.get? name) :
    Spoken c t where
  cache := hc
  proxies hbound hb := by
    rw [hreg _ (by rw [hbound]; rfl)] at hb
    obtain ⟨entity, m, k, hspeaks⟩ := h.proxies hbound hb
    exact ⟨entity, m, k, hspeaks.mono hi⟩

theorem Spoken.resolve (h : Spoken c s) (hs : servant.MakesRepositories)
    (hbound : c.bound? d.name = some (d, servant)) {r : Except ContainerError Bean}
    (hr : c.Resolves d servant s r t) : Spoken c t := by
  have hreg := hr.registry
  cases hr with
  | found _ => exact h
  | refused _ hcache hends =>
    exact h.of_settles hcache hends.settles fun name _ => s.registry.get?_reserve d.name name
  | made _ hcache hends =>
    refine ⟨hcache, fun {d' servant' b'} hbound' hb' => ?_⟩
    rw [hreg, Option.or_eq_some_iff] at hb'
    rcases hb' with hold | ⟨-, hnew⟩
    · obtain ⟨entity, m, k, hspeaks⟩ := h.proxies hbound' hold
      exact ⟨entity, m, k, hspeaks.mono hends.settles⟩
    · -- The name is that of the interface that has just been resolved.
      split at hnew
      · rename_i hname
        cases hnew
        rw [hname, hbound] at hbound'
        cases hbound'
        obtain ⟨entity, m, hspeaks⟩ := hends.speaks hs
        exact ⟨entity, m, _, hspeaks⟩
      · cases hnew

theorem Spoken.keepsFromStart (hs : ∀ {d servant}, c.bound? d.name = some (d, servant) →
    servant.MakesRepositories) : c.KeepsFromStart (Spoken c) where
  cache h := h.cache
  resolve hbound h hr := h.resolve (hs hbound) hbound hr
  bind _ _ h := h.of_settles h.cache (Instances.settles_bind _ _ _) fun _ _ => rfl
  make _ _ h := h.of_settles h.cache (Instances.settles_make _ _) fun _ _ => rfl
  reserve _ h := h.of_settles h.cache (fun _ _ _ h => h) fun _ _ => Registry.get?_reserve ..
  fill b hname h := h.of_settles h.cache (fun _ _ _ h => h) fun _ hb =>
    get?_fill_of_bound hname hb _ b
  inject _ h := h.of_settles h.cache (fun _ _ _ h => h) fun _ _ => rfl

/-! ## What a proxy says -/

/-- The object that a proxy passes calls on to. -/
def Instances.target? (i : Instances) (id : ObjectId) : Option ObjectId :=
  match i.get? id with
  | some ⟨_, .proxy _ target _⟩ => some target
  | _ => none

/-- The bean `b` of a repository interface is a proxy for the entity that the interface's second type
argument names. It and the repository that it passes calls on to have the entity's metadata, and
whatever it answers names the entity's table. -/
structure Context.Represents (x : Context) (s : Stage) (interface : String) (b : Bean)
    (target : ObjectId) (entity : Definition) (m : Metadata) : Prop where
  declared : ∃ d id t rest, x.catalog.get? interface = some d ∧
    d.descriptor.typeArguments = id :: t :: rest ∧ x.catalog.get? t.name = some entity
  metadata : Metadata.resolve entity.descriptor = .ok m
  forwards : s.instances.target? b.object = some target
  bound : s.instances.repository? target = some ⟨some m⟩
  proxy : s.instances.proxy? b.object = some ⟨⟨some m⟩, m⟩
  table : entity.descriptor.table? = some m.table
  statements : ∀ (call : RepositoryCall) statement,
    call.answer ⟨⟨some m⟩, m⟩ = .ok statement → About m.table statement

theorem Catalog.Speaks.represents {x : Context} {k : Nat} (hd : x.catalog.get? d.name = some d)
    (h : x.catalog.Speaks d s.instances b entity m k) :
    x.Represents s d.name b ⟨k⟩ entity m := by
  obtain ⟨id, t, rest, hargs, ht⟩ := Catalog.entityOf_eq_ok_iff.1 h.declared
  obtain ⟨shownAs, hproxy⟩ := h.proxy
  obtain ⟨origin, hrepository⟩ := h.repository
  have hbound : s.instances.repository? ⟨k⟩ = some ⟨some m⟩ := by
    rw [Instances.repository?, hrepository]
  exact
    { declared := ⟨d, id, t, rest, hd, hargs, ht⟩
      metadata := h.metadata
      forwards := by rw [Instances.target?, h.object, hproxy]
      bound := hbound
      proxy := by
        rw [Instances.proxy?, h.object, hproxy]
        exact congrArg (Option.map _) hbound
      table := (Metadata.reads_of_resolve h.metadata).table
      statements := fun call statement hs => about_of_answer rfl hs }

/-- In every state of a started container whose interfaces are served by types that make fresh
repositories, every proxy speaks for the entity of its own interface, and no two proxies pass their
calls on to one repository. -/
theorem bootstrap_proxies_represent (c : Catalog) (i : Instances) {x : Context} {s t : Stage}
    (hmakes : ∀ name implementation servant, x.bindings.get? name = some implementation →
      c.get? implementation = some servant → servant.MakesRepositories)
    (h : (bootstrap c).exec { instances := i } = (.ok x, s)) (ht : x.Visits s t) :
    (∀ name implementation b, x.bindings.get? name = some implementation →
      t.registry.get? name = some b → ∃ target entity m, x.Represents t name b target entity m) ∧
    ∀ name name' implementation implementation' b b' target,
      x.bindings.get? name = some implementation → x.bindings.get? name' = some implementation' →
      t.registry.get? name = some b → t.registry.get? name' = some b' →
      t.instances.target? b.object = some target → t.instances.target? b'.object = some target →
      name = name' := by
  obtain ⟨log, hstarted⟩ := (bootstrap_yields c i).post_of_exec h
  obtain rfl := hstarted.catalog
  have hb := bindingsOf_of_entries hstarted.bindings
  have hserve {d servant} (hbound : x.catalog.bound? d.name = some (d, servant)) :
      servant.MakesRepositories := by
    obtain ⟨-, -, hservant⟩ := Catalog.bound?_eq_some_iff.1 hbound
    exact hmakes d.name servant.name servant (by rw [hb, hbound]; rfl)
      (Catalog.get?_of_servant? hservant)
  have hkeeps := Spoken.keepsFromStart hserve
  have hspoken : Spoken x.catalog t :=
    (hkeeps.toKeeps.context hb.backs).visits (hkeeps.bootstrap (spoken_start _ i) h) ht
  have hspeaks {name implementation b} (hname : x.bindings.get? name = some implementation)
      (hget : t.registry.get? name = some b) : ∃ d entity m k, x.catalog.get? d.name = some d ∧
        d.name = name ∧ x.catalog.Speaks d t.instances b entity m k := by
    obtain ⟨d, servant, hbound, rfl, -⟩ := hb.backs name implementation hname
    obtain ⟨entity, m, k, hspeaks⟩ := hspoken.proxies hbound hget
    obtain ⟨hd, -, -⟩ := Catalog.bound?_eq_some_iff.1 hbound
    exact ⟨d, entity, m, k, ((x.catalog.mem_interfaces_iff d).1 hd).1, rfl, hspeaks⟩
  refine ⟨fun name implementation b hname hget => ?_, ?_⟩
  · obtain ⟨d, entity, m, k, hd, rfl, hspeak⟩ := hspeaks hname hget
    exact ⟨⟨k⟩, entity, m, hspeak.represents hd⟩
  · intro name name' implementation implementation' b b' target hname hname' hget hget' ht ht'
    obtain ⟨d, entity, m, k, hd, rfl, hspeak⟩ := hspeaks hname hget
    obtain ⟨d', entity', m', k', hd', rfl, hspeak'⟩ := hspeaks hname' hget'
    -- The target says where its proxy stands, and the proxy says whose it is.
    rw [(hspeak.represents hd).forwards] at ht
    rw [(hspeak'.represents hd').forwards, ← ht] at ht'
    obtain rfl : k' = k := by simpa using ht'
    obtain ⟨shownAs, hproxy⟩ := hspeak.proxy
    obtain ⟨shownAs', hproxy'⟩ := hspeak'.proxy
    rw [hproxy] at hproxy'
    exact congrArg Object.origin (Option.some.inj hproxy')

/-- Two repository interfaces for two entities over one implementation. -/
def sharedCatalog : Catalog :=
  .addAll .empty
    [{ descriptor := { type := ⟨"Root", "Root"⟩, kind := .interface, tags := [.repository] } },
     { descriptor :=
        { type := ⟨"Store", "Store"⟩, kind := .concrete, interfaces := [⟨"Root", "Root"⟩] }
       constructor := some (.ok .repository)
       repositoryTarget := some fun b => some b.object },
     { descriptor :=
        { type := ⟨"Note", "Note"⟩
          kind := .concrete
          tags := [.table "notes"]
          fields := [⟨"id", [.id, .column "id"]⟩] } },
     { descriptor :=
        { type := ⟨"Label", "Label"⟩
          kind := .concrete
          tags := [.table "labels"]
          fields := [⟨"key", [.id, .column "key"]⟩] } },
     { descriptor :=
        { type := ⟨"Notes", "Notes"⟩
          kind := .interface
          interfaces := [⟨"Root", "Root"⟩]
          typeArguments := [⟨"i32", "i32"⟩, ⟨"Note", "Note"⟩] }
       proxyFactory := some "Notes" },
     { descriptor :=
        { type := ⟨"Labels", "Labels"⟩
          kind := .interface
          interfaces := [⟨"Root", "Root"⟩]
          typeArguments := [⟨"i32", "i32"⟩, ⟨"Label", "Label"⟩] }
       proxyFactory := some "Labels" }]

/-- What is started over it. -/
def sharedContext : Context :=
  ⟨sharedCatalog, ⟨[("Root", "Store"), ("Notes", "Store"), ("Labels", "Store")], by decide⟩⟩

/-- Where it stands when both interfaces have been looked up. -/
def sharedStage : Stage :=
  sharedContext.after {} [.bean "Notes", .bean "Labels"]

theorem bootstrap_proxies_represent_shared :
    (bootstrap sharedCatalog).exec {} = (.ok sharedContext, {}) ∧
    (∃ target entity m,
      sharedContext.Represents sharedStage "Notes" ⟨.interface "Notes", ⟨1⟩⟩ target entity m) ∧
    ∃ target entity m,
      sharedContext.Represents sharedStage "Labels" ⟨.interface "Labels", ⟨3⟩⟩ target entity m := by
  have hstart : (bootstrap sharedCatalog).exec {} = (.ok sharedContext, {}) := by cbv
  have hmakes : ∀ name implementation servant,
      sharedContext.bindings.get? name = some implementation →
      sharedCatalog.get? implementation = some servant → servant.MakesRepositories := by
    intro name implementation servant hname hservant
    obtain rfl : implementation = "Store" := by
      have hmem := (OrderedMap.get?_eq_some_iff ..).1 hname
      simp only [sharedContext, List.mem_cons, Prod.mk.injEq, List.not_mem_nil, or_false] at hmem
      rcases hmem with ⟨-, h⟩ | ⟨-, h⟩ | ⟨-, h⟩ <;> exact h
    have hconstructor : (sharedCatalog.get? "Store").bind (·.constructor) =
        some (.ok .repository) := by cbv
    have htarget : (sharedCatalog.get? "Store").bind (·.repositoryTarget) =
        some fun b => some b.object := by cbv
    rw [hservant, Option.bind_some] at hconstructor htarget
    refine ⟨hconstructor, fun hook b id hhook hid => ?_⟩
    rw [htarget] at hhook
    cases hhook
    cases hid
    rfl
  have hvisits : sharedContext.Visits {} sharedStage :=
    ⟨[.bean "Notes", .bean "Labels"], by decide, rfl⟩
  have hnotes : sharedContext.bindings.get? "Notes" = some "Store" ∧
      sharedStage.registry.get? "Notes" = some ⟨.interface "Notes", ⟨1⟩⟩ :=
    ⟨by decide, by decide +kernel⟩
  have hlabels : sharedContext.bindings.get? "Labels" = some "Store" ∧
      sharedStage.registry.get? "Labels" = some ⟨.interface "Labels", ⟨3⟩⟩ :=
    ⟨by decide, by decide +kernel⟩
  obtain ⟨hrepresents, -⟩ := bootstrap_proxies_represent sharedCatalog {} hmakes hstart hvisits
  exact ⟨hstart, hrepresents _ _ _ hnotes.1 hnotes.2, hrepresents _ _ _ hlabels.1 hlabels.2⟩

end BeanKit
