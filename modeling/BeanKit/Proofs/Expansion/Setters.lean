import BeanKit.Container.Definition
import BeanKit.Expansion.Setters
import BeanKit.Proofs.Outcome
/-! # What becomes of a block with setters

A block of methods is written again without the marks on its setters, and is otherwise as it was. Each
setter is turned into one injector, in the order of the methods: its types are what the container
looks up for it, and with one parameter it passes on what was looked up. A setter that cannot be turned
into an injector leaves nothing of the block. -/

namespace BeanKit.Expansion

open BeanKit.Declaration

/-! ## Types of parameters -/

/-- A shared handle: a path that ends in `Arc` and has the type that it points to as its first
argument. -/
def IsHandle (t pointee : TypeExpr) : Prop :=
  ∃ stem joined more trailing,
    t = .path (.mk stem "Arc" (.angle joined (.type pointee :: more) trailing))

/-- A trait object, perhaps in parentheses. -/
inductive IsTraitObject : TypeExpr → Prop
  | bounds (keyword : Bool) (bounds : List (List Token)) (trailing : Bool) :
      IsTraitObject (.traitObject keyword bounds trailing)
  | paren {inner : TypeExpr} : IsTraitObject inner → IsTraitObject (.paren inner)

/-- What is recorded of a type: what it points to where it is a handle, and else the type itself. -/
inductive Records (t : TypeExpr) : TypeExpr → Prop
  | handle {pointee : TypeExpr} : IsHandle t pointee → Records t pointee
  | other : (∀ pointee, ¬ IsHandle t pointee) → Records t t

theorem pointee?_eq_some_iff {t pointee : TypeExpr} :
    t.pointee? = some pointee ↔ IsHandle t pointee := by
  constructor
  · intro h
    unfold TypeExpr.pointee? at h
    split at h
    · rename_i path
      obtain ⟨stem, name, arguments⟩ := path
      split at h
      · rename_i hname
        obtain rfl : name = "Arc" := hname
        obtain ⟨a, ha, htype⟩ := Option.bind_eq_some_iff.1 h
        cases arguments with
        | none => cases ha
        | round tokens => cases ha
        | angle joined items trailing =>
          obtain ⟨more, rfl⟩ := List.head?_eq_some_iff.1 ha
          cases a <;> cases htype
          exact ⟨stem, joined, more, trailing, rfl⟩
      · cases h
    · cases h
  · rintro ⟨stem, joined, more, trailing, rfl⟩
    rfl

/-- What becomes of the parameters of a setter. A single one is a handle, and is looked up as an
interface where it points to a trait object, and else as a component; any other number of them
fails. -/
inductive Injects : List Param → Injection → Prop
  | interface {p : Param} {pointee : TypeExpr} : IsHandle p.type pointee → IsTraitObject pointee →
      Injects [p] (.passes .interface pointee)
  | component {p : Param} {pointee : TypeExpr} : IsHandle p.type pointee → ¬ IsTraitObject pointee →
      Injects [p] (.passes .component pointee)
  | fails {params : List Param} : params.length ≠ 1 → Injects params .fails

/-- An injector of a setter: it has the setter's name and lists what is recorded of its parameters. -/
structure Serves (m : MethodDecl) (i : Injector) : Prop where
  method : i.method = m.signature.name
  dependencies : List.Forall₂ (fun p t => Records p.type t) m.signature.params i.dependencies
  injection : Injects m.signature.params i.injection

namespace Injector

end Injector

/-! ## The block -/

/-- The code that stands for a dependency of a type. -/
def lookupCode : Lookup → TypeExpr → List Token
  | .interface, t =>
    tokensOf "::di_abstractions::expect_interface::<" ++ t.tokens ++ tokensOf ">(&dependency)?"
  | .component, t =>
    tokensOf "::di_abstractions::expect_component::<" ++ t.tokens ++ tokensOf ">(&dependency)?"

/-- The code of an injector: the descriptor of a setter with its types and its tag, and a function that
calls the setter with a dependency, or fails whatever it is given. -/
structure Writes (i : Injector) : Prop where
  call : i.tokens = tokensOf ".with_injector" ++
    parens (tokensOf "::infrastructure_common::MethodDescriptor::new" ++
      parens (.ofString i.method :: .mark ',' :: tokensOf "::std::vec!" ++
        brackets (commaSeparated (i.dependencies.map fun t => typeInfo t.tokens)) ++ [.mark ',']) ++
      tokensOf ".with_tag(::infrastructure_common::Tag::Autowire)," ++ i.functionTokens)
  passes : ∀ lookup pointee, i.injection = .passes lookup pointee →
    tokensOf "target." ++ .word i.method :: parens (lookupCode lookup pointee) <:+: i.functionTokens
  fails : i.injection = .fails → i.functionTokens = tokensOf "|_, _|" ++
    braces (tokensOf "::std::result::Result::Err" ++
      parens (tokensOf "::infrastructure_common::ContainerError::wiring" ++
        parens (tokensOf "::std::any::type_name::<Self>()," ++
          [.ofString i.method, .mark ',', .ofString "注入方法必须且只能声明一个参数", .mark ','])))

theorem Injector.writes (i : Injector) : Writes i where
  call := rfl
  passes lookup pointee h := by
    unfold Injector.functionTokens
    rw [h]
    refine List.infix_append_of_infix_right (infix_braces (List.infix_append_of_infix_left ?_))
    rw [List.append_assoc]
    cases lookup
    · exact List.infix_append_right
    · exact List.infix_append_right
  fails h := by
    unfold Injector.functionTokens
    rw [h]

/-! ## Injection points -/

section Points

variable (info : TypeExpr → TypeRef) (self : TypeRef)

/-- The descriptor of a setter, with types as the container knows them. -/
def Injector.describe (i : Injector) : Method := ⟨i.method, i.dependencies.map info, [.autowire]⟩

/-- What the function of an injector answers for beans of a type. -/
def Injector.accept (i : Injector) (target dependency : Bean) : Except ContainerError Unit :=
  match i.injection with
  | .passes lookup pointee => do
    target.expectComponent self.name
    match lookup with
    | .interface => dependency.expectInterface (info pointee).name
    | .component => dependency.expectComponent (info pointee).name
  | .fails =>
    .error (.wiring self.fullName i.method (.refused "注入方法必须且只能声明一个参数"))

/-- A definition of a type with the injection points of its block. A setter fills the slot of its
number. -/
def SettersExpansion.points (e : SettersExpansion) (d : Definition) : Definition :=
  e.injectors.zipIdx.foldl
    (fun d (i, slot) => d.withInjector (i.describe info) ⟨slot, i.accept info self⟩) d

/-- What the function of an injector answers for a setter: with one parameter it takes a target of the
own type with a dependency that is looked up by what the handle points to, with any other number of
them it takes nothing at all. -/
structure Answers (m : MethodDecl) (i : Injector) : Prop where
  interface : ∀ p pointee, m.signature.params = [p] → IsHandle p.type pointee →
    IsTraitObject pointee → ∀ target dependency, i.accept info self target dependency = .ok () ↔
      target.isComponent self.name ∧ dependency.isInterface (info pointee).name
  component : ∀ p pointee, m.signature.params = [p] → IsHandle p.type pointee →
    ¬ IsTraitObject pointee → ∀ target dependency, i.accept info self target dependency = .ok () ↔
      target.isComponent self.name ∧ dependency.isComponent (info pointee).name
  fails : m.signature.params.length ≠ 1 → ∀ target dependency, i.accept info self target dependency =
    .error (.wiring self.fullName m.signature.name (.refused "注入方法必须且只能声明一个参数"))

theorem IsHandle.unique {t pointee other : TypeExpr} (h : IsHandle t pointee)
    (h' : IsHandle t other) : pointee = other :=
  Option.some.inj ((pointee?_eq_some_iff.2 h).symm.trans (pointee?_eq_some_iff.2 h'))

theorem expectComponent_eq_ok_iff {type : String} {b : Bean} :
    b.expectComponent type = .ok () ↔ b.isComponent type := by
  unfold Bean.expectComponent
  split <;> simp_all

theorem expectInterface_eq_ok_iff {name : String} {b : Bean} :
    b.expectInterface name = .ok () ↔ b.isInterface name := by
  unfold Bean.expectInterface
  split <;> simp_all

theorem Serves.answers {m : MethodDecl} {i : Injector} (h : Serves m i) :
    Answers info self m i := by
  obtain ⟨method, dependencies, injection⟩ := i
  obtain ⟨rfl, -, hinjects : Injects m.signature.params injection⟩ := h
  refine ⟨fun p pointee hp hhandle hobject target dependency => ?_,
    fun p pointee hp hhandle hobject target dependency => ?_, fun hlength target dependency => ?_⟩
  · rw [hp] at hinjects
    cases hinjects with
    | interface hhandle' =>
      rw [hhandle.unique hhandle', Injector.accept, then_eq_ok_iff, expectComponent_eq_ok_iff,
        expectInterface_eq_ok_iff]
    | component hhandle' hother => exact absurd (hhandle.unique hhandle' ▸ hobject) hother
    | fails hlength => exact absurd rfl hlength
  · rw [hp] at hinjects
    cases hinjects with
    | interface hhandle' hother => exact absurd hother (hhandle.unique hhandle' ▸ hobject)
    | component hhandle' =>
      rw [hhandle.unique hhandle', Injector.accept, then_eq_ok_iff, expectComponent_eq_ok_iff,
        expectComponent_eq_ok_iff]
    | fails hlength => exact absurd rfl hlength
  · generalize m.signature.params = params at hinjects hlength
    cases hinjects with
    | interface => exact absurd rfl hlength
    | component => exact absurd rfl hlength
    | fails => rfl

end Points

/-! ## Blocks with setters -/

namespace SettersExpansion

end SettersExpansion
end BeanKit.Expansion
