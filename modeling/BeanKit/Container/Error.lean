import BeanKit.Entity
/-!
# What can go wrong in a container

Errors at start-up end it: a container is never left half wired.
-/

namespace BeanKit

/-- Why an instance could not be made. -/
inductive CreationFault where
  | noConstructor
  | noTypeArguments
  | notARepository
  | noProxyFactory
  | refused (reason : String)
  deriving Repr, DecidableEq

/-- The wording of a creation fault. -/
def CreationFault.message : CreationFault → String
  | .noConstructor => "类型没有可用的无参构造函数"
  | .noTypeArguments => "仓储接口需要声明 Id 类型与实体类型两个泛型参数"
  | .notARepository => "实现类型不是仓储实现"
  | .noProxyFactory => "仓储接口没有可用的代理工厂"
  | .refused reason => reason

/-- Why an injection point could not be served. -/
inductive WiringFault where
  | parameterCount (count : Nat)
  | noInjector
  | refused (reason : String)
  deriving Repr, DecidableEq

/-- The wording of a wiring fault. -/
def WiringFault.message : WiringFault → String
  | .parameterCount n => "注入方法必须且只能声明一个参数, 实际声明了 " ++ toString n ++ " 个"
  | .noInjector => "注入方法没有对应的注入函数"
  | .refused reason => reason

/-- What can go wrong in a container. -/
inductive ContainerError where
  | schema (source : SchemaError)
  | implementationNotFound (interface : String)
  | ambiguousImplementation (interface : String) (candidates : List String)
  | wiring (component method : String) (why : WiringFault)
  | unsatisfiedDependency (component dependency : String)
  | creationFailed (type : String) (why : CreationFault)
  | notRegistered (type : String)
  | typeMismatch (type : String)
  deriving Repr, DecidableEq

/-- The wording of a container error. -/
def ContainerError.message : ContainerError → String
  | .schema e => "实体元数据无效: " ++ e.message
  | .implementationNotFound i => "找不到仓储接口 '" ++ i ++ "' 的实现, 请检查配置"
  | .ambiguousImplementation i candidates =>
    "仓储接口 '" ++ i ++ "' 存在多个实现: " ++ Text.quotedList candidates
  | .wiring c m why => "装配失败: " ++ c ++ "::" ++ m ++ ", 原因: " ++ why.message
  | .unsatisfiedDependency c d => "装配失败: " ++ c ++ " 依赖的类型 '" ++ d ++ "' 没有可用的组件"
  | .creationFailed t why => "组件创建失败: " ++ t ++ ", 原因: " ++ why.message
  | .notRegistered t => "组件未注册: " ++ t
  | .typeMismatch t => "组件类型不匹配: " ++ t

end BeanKit
