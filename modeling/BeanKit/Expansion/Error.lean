import BeanKit.Declaration.Fault
/-!
# What is wrong with a declaration

A declaration is expanded as a whole or not at all. Each cause for which it is refused has its
wording here.
-/

namespace BeanKit

open BeanKit.Declaration

/-- A cause for which a declaration is not expanded. `unreadable` are arguments that cannot be read,
`rawName` is an identifier that cannot be part of another one. -/
inductive ExpansionError where
  | unreadable (fault : SyntaxFault)
  | genericEntity
  | entityOfOtherKind
  | entityWithoutNamedFields
  | unnamedTable
  | unknownNameKey (path : String)
  | genericComponent
  | componentOfOtherKind
  | unknownComponentKey
  | notTraitObject
  | genericInterface
  | unknownRepositoryKey
  | genericRepository
  | halfRepositoryTypes
  | noRepositoryTypes
  | compoundParameter
  | traitBlock
  | genericBlock
  | noSharedReceiver
  | setterWithOutput
  | setterWithoutHandle
  | rawName (name : String)
  deriving Repr, DecidableEq

/-- The wording of a cause. -/
def ExpansionError.message : ExpansionError → String
  | unreadable fault => fault.message
  | genericEntity => "实体不支持泛型参数"
  | entityOfOtherKind => "#[derive(Entity)] 只能用于结构体"
  | entityWithoutNamedFields => "#[derive(Entity)] 需要具名字段"
  | unnamedTable => "#[table] 需要声明表名: #[table(name = \"...\")]"
  | unknownNameKey path => "#[" ++ path ++ "] 只支持 name = \"...\" 参数"
  | genericComponent => "组件不支持泛型参数"
  | componentOfOtherKind => "#[derive(Component)] 只能用于结构体"
  | unknownComponentKey => "#[component] 只支持 implements(...) 与 autowired 参数"
  | notTraitObject => "implements(...) 需要 trait 对象类型, 例如 dyn Clock"
  | genericInterface => "接口不支持泛型参数"
  | unknownRepositoryKey => "#[repository] 只支持 id 与 entity 参数"
  | genericRepository => "仓储接口不支持泛型参数"
  | halfRepositoryTypes => "#[repository] 需要同时声明 id 与 entity"
  | noRepositoryTypes =>
    "仓储接口必须继承 CrudRepository<Id, Entity>, 或通过 #[repository(id = ..., entity = ...)] 声明"
  | compoundParameter => "仓储方法参数必须是简单标识符"
  | traitBlock => "#[autowired] 只能用于固有 impl 块"
  | genericBlock => "#[autowired] 不支持泛型 impl 块"
  | noSharedReceiver => "#[autowire] 方法必须以 &self 作为接收者"
  | setterWithOutput => "#[autowire] 方法不能有返回值"
  | setterWithoutHandle => "#[autowire] 参数类型必须是 Arc<dyn Trait> 或 Arc<Type>"
  | rawName name => name ++ " cannot be part of an identifier"

end BeanKit
