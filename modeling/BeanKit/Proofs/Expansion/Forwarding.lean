import BeanKit.Expansion.Repository
import BeanKit.Proofs.Outcome
import BeanKit.Proofs.Repository.Proxying
/-! # Methods that are forwarded

A repository interface is expanded to a proxy that has its methods without a body, and no others. Each
of them hands its parameters to the query of its name, so where that name reads as clauses, a call says
every clause of the parameter in its place. The parents in the descriptor are the bounds that are not
markers. The id type and the entity type are given both, or neither, and then they are those of the
first parent that has them. -/

namespace BeanKit.Expansion

open BeanKit.Declaration BeanKit.Query

/-! ## The types of a repository -/

/-- What a proxy answers to a method, whose parameters have values by their names. -/
def ForwardedMethod.call (f : ForwardedMethod) (p : Proxy) (valueOf : String → Value) :
    Except Query.Error String := p.invoke f.query (f.arguments.map valueOf)

/-- A method as a query: with a parameter for each clause, every clause is said of the value in its
place, and with fewer of them the call is refused. -/
structure Asks (f : ForwardedMethod) (p : Proxy) (m : Metadata) (q : Predicate) : Prop where
  answer : q.clauses.length ≤ f.signature.params.length → ∀ valueOf,
    f.call p valueOf = .ok (selectText m.table (" WHERE" ++
      String.join (List.zipWith Clause.render q.clauses (f.arguments.map valueOf))))
  refused : f.signature.params.length < q.clauses.length → ∃ field, ∀ valueOf,
    f.call p valueOf = .error (.insufficientArguments f.query field f.signature.params.length)

/-- The code of a query argument. -/
def argumentCode (name : String) : List Token :=
  tokensOf "::infrastructure_common::Value::from" ++ parens [.word name]

/-- A method of the proxy: it has the signature of the declared one, and hands what its parameters
bind, in their order, to the query of its name. -/
structure Forwards (m : TraitMethod) (f : ForwardedMethod) : Prop where
  signature : f.signature = m.signature
  query : f.query = Naming.camel m.signature.name
  arguments : List.Forall₂ (fun p name => bindingOf p.pattern = some name)
    m.signature.params f.arguments
  code : f.tokens = m.signature.tokens ++ braces (tokensOf "self.invoke" ++
    parens (.ofString (Naming.camel m.signature.name) :: .mark ',' :: .mark '&' ::
      brackets (commaSeparated (f.arguments.map argumentCode))))
  asks : ∀ (p : Proxy) metadata q, p.target.metadata = some metadata →
    parse metadata.columnOfField f.query = .ok q → Asks f p metadata q

namespace ForwardedMethod

end ForwardedMethod

/-! ## The code -/

namespace RepositoryExpansion

end RepositoryExpansion
end BeanKit.Expansion
