import BeanKit.Application
import BeanKit.Proofs.Container.Inventory
import BeanKit.Proofs.Container.Progress
/-! # What an application is assembled from

The types of an application come from several places: the library, the scanners, and the plan itself.
They are offered to one catalog, one place after the other, and the catalog keeps the first of each
name. Before that, the settings are checked; settings that pass the check always say how to log. -/

namespace BeanKit

open BeanKit.Text

/-! ## Levels -/

namespace LogLevel

/-- Whether `parse` reads the name of every level, whichever of its letters are capitals. -/
def ReadsNames (parse : String → Option LogLevel) : Prop :=
  ∀ (level : LogLevel) (text : String), lowerAsciiText text = lowerAsciiText level.name →
    parse text = some level

theorem lowerAscii_of_isDigit {c : Char} (h : isDigit c) : lowerAscii c = c := by
  simp only [isDigit, Bool.and_eq_true, decide_eq_true_eq] at h
  refine if_neg fun hcapital => ?_
  have hlt : '9' < 'A' := by decide
  exact absurd (hcapital.1.trans h.2) (not_le.2 hlt)

theorem number?_cons {c : Char} {rest : List Char} (hdigit : ¬ isDigit c) (hplus : c ≠ '+') :
    number? (c :: rest) = none := by
  unfold number?
  split
  · rename_i h
    exact absurd (List.cons.inj h).1 hplus
  · simp [nat?, hdigit]

/-- A name is not taken for a number, as no level starts with a digit or a plus sign. -/
theorem number?_of_name {level : LogLevel} {text : String}
    (h : lowerAsciiText text = lowerAsciiText level.name) : number? text.toList = none := by
  have hlower : text.toList.map lowerAscii = level.name.toList.map lowerAscii := by
    simpa [lowerAsciiText] using congrArg String.toList h
  cases hchars : text.toList with
  | nil =>
    rw [hchars] at hlower
    cases level <;> cases hlower
  | cons c rest =>
    rw [hchars] at hlower
    -- Small or capital, the first letter is that of a level, and no digit is made small.
    have hletter : lowerAscii c ∈ ['e', 'w', 'i', 'd', 't'] := by
      cases level <;> simp [(List.cons.inj hlower).1, name] <;> decide
    apply number?_cons
    · intro hdigit
      rw [lowerAscii_of_isDigit hdigit] at hletter
      have hletters : ∀ l ∈ ['e', 'w', 'i', 'd', 't'], ¬ isDigit l := by simp [isDigit]
      exact hletters c hletter hdigit
    · rintro rfl
      revert hletter
      decide

theorem readsNames_parse? : ReadsNames parse? := by
  intro level text h
  rw [parse?, number?_of_name h, h]
  cases level <;> decide

end LogLevel

/-- Settings that are valid name a level. -/
theorem LogSettings.exists_level_of_validate {s : LogSettings} (h : s.validate = .ok ()) :
    ∃ level : LogLevel, lowerAsciiText s.level = lowerAsciiText level.name := by
  unfold validate at h
  dsimp only at h
  split at h
  · rename_i hmem
    have hnames : Settings.levelNames = LogLevel.all.reverse.map (lowerAsciiText ·.name) := rfl
    rw [List.contains_iff_mem, hnames] at hmem
    obtain ⟨level, -, hlevel⟩ := List.mem_map.1 hmem
    exact ⟨level, hlevel.symm⟩
  · cases h

theorem Settings.validate_logging {t : Settings} (h : t.validate = .ok ()) :
    t.logging.validate = .ok () := by
  unfold validate at h
  split at h
  · exact h
  · cases h

/-- Settings that are valid say how to log. -/
theorem LoggingConfig.readBy_of_validate {t : Settings} (h : t.validate = .ok ())
    {parse : String → Option LogLevel} (hparse : LogLevel.ReadsNames parse) :
    ∃ level : LogLevel, lowerAsciiText t.logging.level = lowerAsciiText level.name ∧
      readBy parse t.logging = .ok { level, jsonFormat := t.logging.json } := by
  obtain ⟨level, hlevel⟩ := LogSettings.exists_level_of_validate (Settings.validate_logging h)
  refine ⟨level, hlevel, ?_⟩
  rw [readBy, hparse level _ hlevel]

/-! ## Scanners -/

theorem Definition.inNamespace_empty (d : Definition) : d.inNamespace "" := by
  simp [inNamespace, TypeRef.inNamespace, dropTails, dropTails.go]

namespace Scanner

/-- Whether a scanner finds in a namespace those of its definitions that lie there, in their order. -/
def Heeds (scanner : Scanner) : Prop :=
  ∀ space, scanner.scan space = (scanner.scan "").filter (·.inNamespace space)

theorem scan_fixed_empty (ds : List Definition) : (fixed ds).scan "" = ds :=
  List.filter_eq_self.2 fun d _ => d.inNamespace_empty

theorem heeds_fixed (ds : List Definition) : (fixed ds).Heeds := by
  intro space
  rw [scan_fixed_empty]
  rfl

theorem heeds_inventory (submitted : List Definition) :
    (inventory (.ofSubmissions submitted)).Heeds := by
  intro space
  let types := Inventory.ofSubmissions submitted
  have hnodup : (types.values.map Definition.name).Nodup :=
    Inventory.nodup_names_ofSubmissions submitted
  have hall : types.values.filter (·.inNamespace "") = types.values :=
    List.filter_eq_self.2 fun d _ => d.inNamespace_empty
  -- Both sides are sorted by name, and have the same members.
  refine List.Perm.eq_of_pairwise ?_ (Inventory.scan_ascending hnodup)
    ((Inventory.scan_ascending hnodup).filter _) ?_
  · intro a b _ _ hab hba
    exact absurd hab (lt_asymm hba)
  · have hperm := (types.scan_perm "").filter (·.inNamespace space)
    rw [hall] at hperm
    exact (types.scan_perm space).trans hperm.symm

end Scanner

/-! ## Sources -/

theorem Catalog.addAll_append (c : Catalog) (ds ds' : List Definition) :
    c.addAll (ds ++ ds') = (c.addAll ds).addAll ds' := List.foldl_append

namespace Plan

/-- What the scanners of a plan find in a namespace, one scanner after the other. -/
def found (p : Plan) (types : Inventory) (space : String) : List Definition :=
  if p.scanners = [] then types.scan space else p.scanners.flatMap (·.scan space)

/-- What is offered to the catalog, in order. -/
def offered (p : Plan) (types : Inventory) (t : Settings) : List Definition :=
  (if t.scan.includeBuiltins then builtins else []) ++ p.found types t.scan.space ++ p.definitions

theorem found_eq_flatMap (p : Plan) (types : Inventory) (space : String) :
    p.found types space = (p.allScanners types).flatMap (·.scan space) := by
  unfold found allScanners
  cases p.scanners with
  | nil => simp [Scanner.inventory]
  | cons scanner rest => simp

theorem catalog_eq_addAll (p : Plan) (types : Inventory) (t : Settings) :
    p.catalog types t = Catalog.addAll .empty (p.offered types t) := by
  have hscanned (c : Catalog) :
      (p.allScanners types).foldl (fun c s => c.addAll (s.scan t.scan.space)) c =
        c.addAll (p.found types t.scan.space) := by
    rw [found_eq_flatMap, Catalog.addAll, List.foldl_flatMap]
    rfl
  rw [offered, Catalog.addAll_append, Catalog.addAll_append, catalog, hscanned]
  split <;> rfl

theorem definitions_catalog (p : Plan) (types : Inventory) (t : Settings) :
    (p.catalog types t).definitions = firstsBy Definition.name (p.offered types t) := by
  rw [catalog_eq_addAll, Catalog.definitions_addAll]
  rfl

/-- Scanners that heed the namespace find what lies there of all that they have. -/
theorem found_of_heeds {p : Plan} (submitted : List Definition) (space : String)
    (h : ∀ scanner ∈ p.scanners, scanner.Heeds) :
    p.found (.ofSubmissions submitted) space =
      (p.found (.ofSubmissions submitted) "").filter (·.inNamespace space) := by
  have hheeds : ∀ scanner ∈ p.allScanners (.ofSubmissions submitted), scanner.Heeds := by
    unfold allScanners
    split
    · intro scanner hmem
      rw [List.mem_singleton.1 hmem]
      exact Scanner.heeds_inventory submitted
    · exact h
  rw [found_eq_flatMap, found_eq_flatMap, List.filter_flatMap]
  exact List.flatMap_congr fun scanner hmem => hheeds scanner hmem space

/-! ## Building -/

variable {p : Plan} {parse : String → Option LogLevel} {s : Surroundings} {t : Settings}

/-- Settings under the namespace of a plan, where it has one. -/
def effective (p : Plan) (given : Settings) : Settings :=
  { given with scan := { given.scan with space := p.space.getD given.scan.space } }

theorem loaded_of_given {given : Settings} (h : p.settings = some given) :
    p.loaded s = .ok (p.effective given) := by
  unfold loaded effective
  rw [h]
  cases p.space <;> rfl

theorem prepare_of_loaded (h : p.loaded s = .ok t) :
    p.prepare parse s = (p.check t).bind fun _ => (p.loggingConfig parse t).map fun _ => t := by
  rw [prepare, h]
  rfl

theorem build_of_prepare_error {e : SettingsError} (h : p.prepare parse s = .error e)
    (types : Inventory) (stage : Stage) :
    p.build parse s types stage = (.error (.settings e), stage) := by
  rw [build, h]

/-- The outcome of a start, as that of building an application. -/
def outcome (t : Settings) : Except ContainerError Context → Except ApplicationError Application
  | .ok context => .ok ⟨t, context⟩
  | .error e => .error (.container e)

theorem build_of_prepare_ok (h : p.prepare parse s = .ok t) (types : Inventory) (stage : Stage) :
    p.build parse s types stage =
      ((bootstrap (p.catalog types t)).exec stage).map (outcome t) id := by
  rw [build, h, Build.exec]
  dsimp only
  rcases (bootstrap (p.catalog types t)).run.run stage with ⟨e | context, after⟩
  · rfl
  · rfl

/-- An application has the settings and the catalog that it was started with. -/
theorem application_of_build (h : p.prepare parse s = .ok t) {types : Inventory}
    {stage after : Stage} {app : Application}
    (hbuild : p.build parse s types stage = (.ok app, after)) :
    app.settings = t ∧ app.context.catalog = p.catalog types t := by
  rw [build_of_prepare_ok h] at hbuild
  rcases hstart : (bootstrap (p.catalog types t)).exec stage with ⟨e | context, after'⟩
  · rw [hstart] at hbuild
    cases hbuild
  · rw [hstart] at hbuild
    cases hbuild
    exact ⟨rfl, (phases_of_bootstrap hstart).1⟩

/-- Valid settings reach the container, as nothing is wrong with how they say to log. -/
theorem prepare_of_validate (hparse : LogLevel.ReadsNames parse) (hp : p.validates)
    (h : p.loaded s = .ok t) (ht : t.validate = .ok ()) : p.prepare parse s = .ok t := by
  obtain ⟨level, -, hlogging⟩ := LoggingConfig.readBy_of_validate ht hparse
  rw [prepare_of_loaded h, check, if_pos hp, ht]
  have hconfig : ∃ config, p.loggingConfig parse t = .ok config := by
    unfold loggingConfig
    cases p.logging with
    | none => exact ⟨_, rfl⟩
    | fromSettings => exact ⟨_, congrArg (Except.map some) hlogging⟩
    | given config => exact ⟨_, rfl⟩
  obtain ⟨config, hconfig⟩ := hconfig
  rw [hconfig]
  rfl

theorem prepare_of_invalid {e : SettingsError} (hp : p.validates) (h : p.loaded s = .ok t)
    (ht : t.validate = .error e) : p.prepare parse s = .error e := by
  rw [prepare_of_loaded h, check, if_pos hp, ht]
  rfl

theorem eq_of_prepare {t' : Settings} (h : p.loaded s = .ok t)
    (h' : p.prepare parse s = .ok t') : t' = t := by
  rw [prepare_of_loaded h] at h'
  cases hchecked : p.check t with
  | error e =>
    rw [hchecked] at h'
    cases h'
  | ok =>
    rw [hchecked] at h'
    change (p.loggingConfig parse t).map (fun _ => t) = .ok t' at h'
    cases hlogging : p.loggingConfig parse t with
    | error e =>
      rw [hlogging] at h'
      cases h'
    | ok config =>
      rw [hlogging] at h'
      exact (Except.ok.inj h').symm

/-- `c` is the catalog that a plan comes to under some settings. -/
structure Assembles (p : Plan) (submitted : List Definition) (t : Settings) (c : Catalog) :
    Prop where
  /-- What is offered under a name that has been offered before is dropped. -/
  definitions : c.definitions = firstsBy Definition.name (p.offered (.ofSubmissions submitted) t)
  /-- From the scanners comes what lies in the namespace, from elsewhere also what does not. -/
  scanned : (∀ scanner ∈ p.scanners, scanner.Heeds) →
    p.offered (.ofSubmissions submitted) t =
      (if t.scan.includeBuiltins then builtins else []) ++
        (p.found (.ofSubmissions submitted) "").filter (·.inNamespace t.scan.space) ++
        p.definitions
  names : (c.definitions.map Definition.name).Nodup
  order : c.definitions.Sublist (p.offered (.ofSubmissions submitted) t)
  earliest : ∀ name,
    c.get? name = (p.offered (.ofSubmissions submitted) t).find? (·.name = name)

theorem assembles_catalog (p : Plan) (submitted : List Definition) (t : Settings) :
    p.Assembles submitted t (p.catalog (.ofSubmissions submitted) t) where
  definitions := p.definitions_catalog _ t
  scanned h := by
    rw [offered, found_of_heeds submitted _ h]
  names := Catalog.nodup_names _
  order := by
    rw [definitions_catalog]
    exact firstsBy_sublist _ _
  earliest name := by
    rw [Catalog.get?_eq_find?, definitions_catalog, find?_firstsBy]

/-- What building a plan comes to, whose settings are `t`, where `parse` reads levels. -/
structure Builds (p : Plan) (parse : String → Option LogLevel) (s : Surroundings)
    (submitted : List Definition) (stage : Stage) (t : Settings) : Prop where
  /-- Settings that are given are taken, under the namespace of the plan. -/
  given : ∀ settings, p.settings = some settings → t = p.effective settings
  /-- Settings that are refused leave the stage as it is: nothing is made. -/
  refused : p.validates → ∀ e, t.validate = .error e →
    p.build parse s (.ofSubmissions submitted) stage = (.error (.settings e), stage)
  /-- Valid settings say how to log, as long as the names of the levels can be read. -/
  logging : LogLevel.ReadsNames parse → t.validate = .ok () → ∃ level : LogLevel,
    lowerAsciiText t.logging.level = lowerAsciiText level.name ∧
      LoggingConfig.readBy parse t.logging = .ok { level, jsonFormat := t.logging.json }
  /-- Valid settings reach the container. -/
  prepared : LogLevel.ReadsNames parse → p.validates → t.validate = .ok () →
    p.prepare parse s = .ok t
  /-- What reaches the container starts it with the catalog of the plan, which is that of the
  application. -/
  started : ∀ settings, p.prepare parse s = .ok settings → settings = t ∧
    ∃ c, p.Assembles submitted t c ∧
      p.build parse s (.ofSubmissions submitted) stage =
        ((bootstrap c).exec stage).map (outcome t) id ∧
      ∀ app after, p.build parse s (.ofSubmissions submitted) stage = (.ok app, after) →
        app.settings = t ∧ app.context.catalog = c

/-- A plan that has its settings loaded checks them, and then starts the container with everything that
it is offered, the first of each name. -/
theorem builds_of_loaded (p : Plan) (parse : String → Option LogLevel) (s : Surroundings)
    (submitted : List Definition) (stage : Stage) (ht : p.loaded s = .ok t) :
    p.Builds parse s submitted stage t where
  given settings hgiven := by
    rw [loaded_of_given hgiven] at ht
    exact (Except.ok.inj ht).symm
  refused hp e he := build_of_prepare_error (prepare_of_invalid hp ht he) _ stage
  logging hparse hvalid := LoggingConfig.readBy_of_validate hvalid hparse
  prepared hparse hp hvalid := prepare_of_validate hparse hp ht hvalid
  started settings hprepare := by
    obtain rfl := eq_of_prepare ht hprepare
    exact ⟨rfl, _, p.assembles_catalog submitted settings, build_of_prepare_ok hprepare _ stage,
      fun _ _ => application_of_build hprepare⟩

/-- A plan whose scanners and definitions have names in common, and that logs as its settings say. -/
def overlapping : Plan where
  settings := some { scan := { space := "library" } }
  space := some "shop::"
  scanners :=
    [.fixed (["shop::Cart", "library::Book", "shop::Order"].map Inventory.plainDefinition),
      .fixed (["shop::Order", "shop::User"].map Inventory.plainDefinition)]
  definitions := ["library::Book", "shop::User"].map Inventory.plainDefinition
  logging := .fromSettings

theorem builds_of_loaded_overlapping :
    (∀ scanner ∈ overlapping.scanners, scanner.Heeds) ∧
    overlapping.loaded {} = .ok { scan := { space := "shop::" } } ∧
    Settings.validate { scan := { space := "shop::" } } = .ok () ∧
    (overlapping.catalog .empty { scan := { space := "shop::" } }).definitions.map Definition.name =
      ["di_abstractions::repository::CrudRepository", "di_impl::crud::SqlCrudRepository",
        "shop::Cart", "shop::Order", "shop::User", "library::Book"] ∧
    LogLevel.ReadsNames LogLevel.parse? ∧
    overlapping.Builds LogLevel.parse? {} [] {} { scan := { space := "shop::" } } := by
  refine ⟨?_, rfl, by decide, by rfl, LogLevel.readsNames_parse?,
    builds_of_loaded overlapping LogLevel.parse? {} [] {} rfl⟩
  intro scanner hmem
  obtain ⟨ds, rfl⟩ : ∃ ds, scanner = .fixed ds := by
    simp only [overlapping, List.mem_cons, List.not_mem_nil, or_false] at hmem
    rcases hmem with rfl | rfl <;> exact ⟨_, rfl⟩
  exact Scanner.heeds_fixed ds

end Plan

end BeanKit
