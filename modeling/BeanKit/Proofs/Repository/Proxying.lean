import BeanKit.Proofs.Query.Diagnosis
import BeanKit.Proofs.Query.Statements
import BeanKit.Repository
/-! # One binding, and proxies that add nothing

A repository takes the first metadata that it is given. Whatever is asked of it later is answered from
them, as if nobody had tried to bind it again. A proxy in front of it answers what the repository
answers: only the name decides which of the repository's methods a call by name ends in. -/

namespace BeanKit.Query

/-! ## What is wrong with a query name -/

/-- The errors in the text behind the start of a query name. -/
inductive Error.InName (method : String) : Error → Prop where
  | misplaced (position : Nat) (what : Misplaced) :
    Error.InName method (.misplaced method position what)
  | unknownField (position : Nat) : Error.InName method (.unknownField method position)

variable {fields : FieldMap} {method : String} {e : Error}

theorem Diagnosed.inName (hn : IsNamed method) (h : Diagnosed fields method e) :
    e.InName method := by
  cases h with
  | invalidName hm => exact absurd hn (not_isNamed_iff.2 hm)
  | unknownField => exact .unknownField _
  | _ => exact .misplaced _ _

/-- A missing value is reported with the method and the field that it is missing for. -/
theorem insufficient_of_render {p : Predicate} {values : List Value}
    (h : p.render values = .error e) : ∃ field i, e = .insufficientArguments p.method field i := by
  rw [Predicate.render] at h
  rcases Nat.lt_or_ge values.length p.clauses.length with hlt | hle
  · rw [renderFrom_of_length_lt _ hlt] at h
    cases h
    exact ⟨_, _, rfl⟩
  · rw [renderFrom_of_length_le _ hle] at h
    cases h

/-- What goes wrong with a query: its name has no text behind the start, something in that text, or
a value that is missing. -/
inductive Error.OfQuery (method : String) : Error → Prop where
  | unnamed (h : ¬ IsNamed method) : Error.OfQuery method (.invalidName method)
  | inName {e : Error} (hn : IsNamed method) (h : e.InName method) : Error.OfQuery method e
  | insufficient (hn : IsNamed method) (field : String) (i : Nat) :
    Error.OfQuery method (.insufficientArguments method field i)

theorem ofQuery_of_compile {values : List Value} (h : compile fields method values = .error e) :
    e.OfQuery method := by
  by_cases hn : IsNamed method
  · cases hparse : parse fields method with
    | error e' =>
      rw [compile, hparse] at h
      cases h
      exact .inName hn ((diagnosed_of_parse hparse).inName hn)
    | ok p =>
      rw [compile, hparse] at h
      obtain ⟨field, i, rfl⟩ := insufficient_of_render h
      rw [method_of_parse hparse]
      exact .insufficient hn field i
  · rw [compile, parse_of_not_isNamed fields hn] at h
    cases h
    exact .unnamed hn

/-- A query name is refused as a whole exactly where it has no text behind its start. -/
theorem compile_eq_invalidName_iff {values : List Value} {name : String} :
    compile fields method values = .error (.invalidName name) ↔ name = method ∧ ¬ IsNamed method := by
  constructor
  · intro h
    generalize he : Error.invalidName name = e at h
    cases ofQuery_of_compile h with
    | unnamed hn =>
      cases he
      exact ⟨rfl, hn⟩
    | inName hn hin => subst he; cases hin
    | insufficient hn field i => cases he
  · rintro ⟨rfl, hn⟩
    rw [compile, parse_of_not_isNamed fields hn]
    rfl

end BeanKit.Query

namespace BeanKit

open BeanKit.Query

/-! ## What a repository is asked for -/

namespace Repository

/-- A call of a repository, by one of its methods or by a name. -/
inductive Call where
  | save (values : List (String × Value))
  | getOne (id : Value)
  | delete (id : Value)
  | listAll
  | find (method : String) (args : List Value)
  | invoke (method : String) (args : List Value)

/-- Whether a call is one by a method: a call by name looks at the name and the arguments first. -/
def Call.isByMethod : Call → Bool
  | .invoke _ _ => false
  | _ => true

/-- What a repository answers to a call. A call leaves the repository as it is. -/
def answer (r : Repository) : Call → Except Error String
  | .save values => r.save values
  | .getOne id => r.getOne id
  | .delete id => r.delete id
  | .listAll => r.listAll
  | .find method args => r.find method args
  | .invoke method args => r.invoke method args

/-- What happens to a repository. -/
inductive Event where
  | bind (m : Metadata)
  | ask (call : Call)

/-- The call that an event is. -/
def Event.call? : Event → Option Call
  | .bind _ => none
  | .ask call => some call

/-- The calls among some events with their answers, in order. -/
def replies : Repository → List Event → List (Call × Except Error String)
  | _, [] => []
  | r, .bind m :: rest => (r.bind m).replies rest
  | r, .ask call :: rest => (call, r.answer call) :: r.replies rest

variable {r : Repository} {m : Metadata}

theorem withMetadata_eq_error_iff {α : Type} {f : Metadata → Except Error α} {e : Error} :
    r.withMetadata f = .error e ↔
      r.metadata = none ∧ e = .unbound ∨ ∃ m, r.metadata = some m ∧ f m = .error e := by
  unfold withMetadata
  cases r.metadata with
  | none => simp [eq_comm]
  | some m => simp

/-- Without metadata every method is refused. -/
theorem answer_unbound {call : Call} (h : call.isByMethod) :
    ({} : Repository).answer call = .error .unbound := by
  cases call with
  | invoke method args => cases h
  | _ => rfl

theorem ofQuery_of_find {method : String} {args : List Value} {e : Error}
    (h : r.find method args = .error e) : r.metadata = none ∧ e = .unbound ∨ e.OfQuery method := by
  rcases withMetadata_eq_error_iff.1 h with hnone | ⟨m, -, h⟩
  · exact .inl hnone
  · cases hc : compile m.columnOfField method args with
    | ok text =>
      rw [hc] at h
      cases h
    | error e' =>
      rw [hc] at h
      cases h
      exact .inr (ofQuery_of_compile hc)

/-- The names that a repository takes calls by. -/
def IsTaken (method : String) : Prop := method = "getOne" ∨ method = "delete" ∨ method = "listAll"

/-- What goes wrong with a call by name: there are no metadata, the id is missing, or the name is
none that calls are taken by. -/
inductive Refuses (r : Repository) (method : String) : Error → Prop where
  | unbound (h : r.metadata = none) : r.Refuses method .unbound
  | noId : r.Refuses method (.invalidArgument (.noId method))
  | unknown (h : ¬ IsTaken method) : r.Refuses method (.unknownMethod method)

theorem refuses_of_withMetadata {method : String} {f : Metadata → String} {e : Error}
    (h : r.withMetadata (fun m => .ok (f m)) = .error e) : r.Refuses method e := by
  rcases withMetadata_eq_error_iff.1 h with ⟨hnone, rfl⟩ | ⟨m, -, h⟩
  · exact .unbound hnone
  · cases h

theorem refuses_of_withId {method : String} {args : List Value} {f : Value → Except Error String}
    {e : Error} (hf : ∀ id, f id = .error e → r.Refuses method e)
    (h : withId method args f = .error e) : r.Refuses method e := by
  cases args with
  | nil =>
    cases h
    exact .noId
  | cons id args => exact hf id h

theorem refuses_of_invoke {method : String} {args : List Value} {e : Error}
    (h : r.invoke method args = .error e) : r.Refuses method e := by
  unfold invoke at h
  split at h
  · rename_i hn
    subst hn
    exact refuses_of_withId (fun _ => refuses_of_withMetadata) h
  split at h
  · rename_i hn
    subst hn
    exact refuses_of_withId (fun _ => refuses_of_withMetadata) h
  split at h
  · exact refuses_of_withMetadata h
  · rename_i hgetOne hdelete hlistAll
    cases h
    exact .unknown fun hn => hn.elim hgetOne fun hn => hn.elim hdelete hlistAll

theorem invoke_eq_unknownMethod_iff {method name : String} {args : List Value} :
    r.invoke method args = .error (.unknownMethod name) ↔ name = method ∧ ¬ IsTaken method := by
  constructor
  · intro h
    cases refuses_of_invoke h with
    | unknown hn => exact ⟨rfl, hn⟩
  · rintro ⟨rfl, hn⟩
    simp only [IsTaken, not_or] at hn
    rw [invoke, if_neg hn.1, if_neg hn.2.1, if_neg hn.2.2]

theorem saveText_ne_unbound (m : Metadata) (values : List (String × Value)) :
    saveText m values ≠ .error .unbound := by
  intro h
  unfold saveText buildInsert buildUpdate at h
  dsimp only at h
  cases hc : checkRow m.table (.ofList ((rowOf m values).map (·.2))) with
  | ok _ =>
    rw [hc] at h
    split at h <;> cases h
  | error e =>
    obtain ⟨why, rfl⟩ := invalid_of_checkRow hc
    rw [hc] at h
    split at h <;> cases h

/-- With metadata nothing is refused for the want of them. -/
theorem answer_ne_unbound (hm : r.metadata = some m) (call : Call) :
    r.answer call ≠ .error .unbound := by
  have hbound : r.metadata ≠ none := by simp [hm]
  intro h
  cases call with
  | save values =>
    rcases withMetadata_eq_error_iff.1 h with ⟨hnone, -⟩ | ⟨m', -, h⟩
    · exact hbound hnone
    · exact saveText_ne_unbound m' values h
  | getOne id =>
    rcases withMetadata_eq_error_iff.1 h with ⟨hnone, -⟩ | ⟨_, -, h⟩
    · exact hbound hnone
    · cases h
  | delete id =>
    rcases withMetadata_eq_error_iff.1 h with ⟨hnone, -⟩ | ⟨_, -, h⟩
    · exact hbound hnone
    · cases h
  | listAll =>
    rcases withMetadata_eq_error_iff.1 h with ⟨hnone, -⟩ | ⟨_, -, h⟩
    · exact hbound hnone
    · cases h
  | find method args =>
    rcases ofQuery_of_find h with ⟨hnone, -⟩ | hquery
    · exact hbound hnone
    · cases hquery with
      | inName _ hin => cases hin
  | invoke method args =>
    cases refuses_of_invoke h with
    | unbound hnone => exact hbound hnone

/-! ## The first binding counts -/

theorem bind_of_bound (hm : r.metadata = some m) (m' : Metadata) : r.bind m' = r := by
  obtain ⟨_⟩ := r
  cases hm
  rfl

/-- A repository that is bound answers as it does now, whatever happens to it. -/
theorem replies_of_bound (hm : r.metadata = some m) (events : List Event) :
    r.replies events = (events.filterMap Event.call?).map fun call => (call, r.answer call) := by
  induction events with
  | nil => rfl
  | cons event events ih =>
    cases event with
    | bind m' => rw [replies, bind_of_bound hm, ih, List.filterMap_cons_none rfl]
    | ask call =>
      rw [replies, ih]
      rfl

/-- A repository stays what it is until it is bound. -/
theorem replies_append (r : Repository) {before : List Event} (h : ∀ m, .bind m ∉ before)
    (after : List Event) : r.replies (before ++ after) = r.replies before ++ r.replies after := by
  induction before with
  | nil => rfl
  | cons event before ih =>
    have hrest : ∀ m, .bind m ∉ before := fun m hm => h m (List.mem_cons_of_mem _ hm)
    cases event with
    | bind m => exact absurd List.mem_cons_self (h m)
    | ask call => rw [List.cons_append, replies, replies, ih hrest, List.cons_append]

theorem replies_before_binding {events : List Event} (h : ∀ m, .bind m ∉ events) :
    ∀ reply ∈ r.replies events, reply.2 = r.answer reply.1 := by
  induction events with
  | nil => exact fun _ hr => absurd hr List.not_mem_nil
  | cons event events ih =>
    have hrest : ∀ m, .bind m ∉ events := fun m hm => h m (List.mem_cons_of_mem _ hm)
    cases event with
    | bind m => exact absurd List.mem_cons_self (h m)
    | ask call => exact List.forall_mem_cons.2 ⟨rfl, ih hrest⟩

end Repository

/-! ## Calls through a proxy -/

namespace Proxy

variable {p : Proxy} {method name : String} {args : List Value}

/-- Names that start like a query. -/
def IsQuery (method : String) : Prop := findBy.toList <+: method.toList

instance (method : String) : Decidable (IsQuery method) :=
  inferInstanceAs (Decidable (findBy.toList <+: method.toList))

theorem invoke_of_isQuery (h : IsQuery method) : p.invoke method args = p.target.find method args := by
  rw [invoke, if_pos (Text.startsWith_iff_prefix.2 h)]

theorem invoke_of_not_isQuery (h : ¬ IsQuery method) :
    p.invoke method args = p.target.invoke method args := by
  rw [invoke, if_neg fun hs => h (Text.startsWith_iff_prefix.1 hs)]

theorem invoke_eq_unknownMethod_iff :
    p.invoke method args = .error (.unknownMethod name) ↔
      name = method ∧ ¬ IsQuery method ∧ ¬ Repository.IsTaken method := by
  by_cases hq : IsQuery method
  · rw [invoke_of_isQuery hq]
    refine ⟨fun h => ?_, fun h => absurd hq h.2.1⟩
    rcases Repository.ofQuery_of_find h with ⟨-, he⟩ | hquery
    · cases he
    · cases hquery with
      | inName _ hin => cases hin
  · rw [invoke_of_not_isQuery hq, Repository.invoke_eq_unknownMethod_iff]
    simp only [hq, not_false_eq_true, true_and]

/-- Only a query name without a text behind its start is refused as a whole. -/
theorem invoke_eq_invalidName_iff {m : Metadata} (hm : p.target.metadata = some m) :
    p.invoke method args = .error (.invalidName name) ↔ name = method ∧ method = findBy := by
  by_cases hq : IsQuery method
  · have hcompile : compile m.columnOfField method args = .error (.invalidName name) ↔
        name = method ∧ ¬ IsNamed method := compile_eq_invalidName_iff
    have hnamed : ¬ IsNamed method ↔ method = findBy :=
      not_isNamed_iff.trans (or_iff_right (not_not_intro hq))
    rw [invoke_of_isQuery hq, Repository.find, Repository.withMetadata_of_bound hm, ← hnamed,
      ← hcompile]
    cases compile m.columnOfField method args with
    | ok text => exact ⟨(nomatch ·), (nomatch ·)⟩
    | error e => exact ⟨fun h => h, fun h => h⟩
  · rw [invoke_of_not_isQuery hq]
    refine ⟨fun h => ?_, ?_⟩
    · cases Repository.refuses_of_invoke h
    · rintro ⟨-, rfl⟩
      exact absurd (List.prefix_refl _) hq

/-- A proxy answers what its repository answers: by its methods what the repository's own give, and
by name what the name says. -/
structure Forwards (p : Proxy) : Prop where
  save : ∀ values, p.save values = p.target.save values
  getOne : ∀ id, p.getOne id = p.target.getOne id
  delete : ∀ id, p.delete id = p.target.delete id
  listAll : p.listAll = p.target.listAll
  query : ∀ method args, IsQuery method → p.invoke method args = p.target.find method args
  unknownMethod : ∀ method args name, p.invoke method args = .error (.unknownMethod name) ↔
    name = method ∧ ¬ IsQuery method ∧ method ≠ "getOne" ∧ method ≠ "delete" ∧ method ≠ "listAll"
  invalidName : p.target.metadata.isSome → ∀ method args name,
    p.invoke method args = .error (.invalidName name) ↔ name = method ∧ method = findBy

theorem forwards (p : Proxy) : p.Forwards where
  save _ := rfl
  getOne _ := invoke_of_not_isQuery (by decide)
  delete _ := invoke_of_not_isQuery (by decide)
  listAll := invoke_of_not_isQuery (by decide)
  query _ _ h := invoke_of_isQuery h
  unknownMethod method args name := by
    rw [invoke_eq_unknownMethod_iff, Repository.IsTaken, not_or, not_or]
  invalidName hm method args name := by
    obtain ⟨m, hm⟩ := Option.isSome_iff_exists.1 hm
    exact invoke_eq_invalidName_iff hm

end Proxy

/-- Until a repository is bound, all its methods are refused. From the first binding on nothing is
refused for the want of metadata, and every answer is that of a repository that has only been bound
this once. In every state of the repository, a proxy in front of it answers what it answers. -/
theorem repository_answers_by_first_binding (before after : List Repository.Event) (m : Metadata)
    (hfirst : ∀ m', .bind m' ∉ before) (p : Proxy) :
    (∀ reply ∈ ({} : Repository).replies before, reply.1.isByMethod → reply.2 = .error .unbound) ∧
    ({} : Repository).replies (before ++ .bind m :: after) = ({} : Repository).replies before ++
      (after.filterMap Repository.Event.call?).map (fun call =>
        (call, (({} : Repository).bind m).answer call)) ∧
    (∀ call, (({} : Repository).bind m).answer call ≠ .error .unbound) ∧
    p.Forwards := by
  have hbound : (({} : Repository).bind m).metadata = some m := rfl
  refine ⟨fun reply hreply hmethod => ?_, ?_, Repository.answer_ne_unbound hbound, p.forwards⟩
  · rw [Repository.replies_before_binding hfirst reply hreply, Repository.answer_unbound hmethod]
  · rw [Repository.replies_append _ hfirst, Repository.replies, Repository.replies_of_bound hbound]

/-- A second binding, to another entity, changes nothing. -/
theorem repository_answers_by_first_binding_rebound :
    let notes : Metadata := ⟨⟨"Note", "Note"⟩, "notes", "id", .empty, .empty⟩
    let labels : Metadata := ⟨⟨"Label", "Label"⟩, "labels", "key", .empty, .empty⟩
    let before : List Repository.Event := [.ask .listAll, .ask (.invoke "getOne" [])]
    (∀ m', .bind m' ∉ before) ∧
    ({} : Repository).replies (before ++ .bind notes :: [.bind labels, .ask .listAll]) =
      [(.listAll, .error .unbound), (.invoke "getOne" [], .error (.invalidArgument (.noId "getOne"))),
       (.listAll, .ok "SELECT * FROM notes")] ∧
    (Proxy.mk (({} : Repository).bind notes) labels).Forwards := by
  intro notes labels before
  have hfirst : ∀ m', .bind m' ∉ before := by simp [before]
  obtain ⟨-, hreplies, -, hforwards⟩ := repository_answers_by_first_binding before
    [.bind labels, .ask .listAll] notes hfirst ⟨({} : Repository).bind notes, labels⟩
  exact ⟨hfirst, hreplies.trans rfl, hforwards⟩

end BeanKit
