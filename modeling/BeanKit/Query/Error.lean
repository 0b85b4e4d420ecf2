import BeanKit.Query.Keyword
/-!
# What can go wrong in a query or a statement

Each error concerns the one call that it answers.
-/

namespace BeanKit.Query

/-- What the parser found where something else belongs. -/
inductive Misplaced where
  | connective
  | missingField
  | noConnective
  | danglingConnective
  deriving Repr, DecidableEq

/-- The wording of a misplaced part. -/
def Misplaced.message : Misplaced → String
  | .connective => "此处应为字段名, 而不是逻辑运算符"
  | .missingField => "缺少字段名"
  | .noConnective => "此处应为逻辑运算符 And 或 Or"
  | .danglingConnective => "逻辑运算符之后缺少字段名"

/-- Why an argument is refused. -/
inductive BadArgument where
  | blankTable
  | noColumns (table : String)
  | noId (method : String)
  | unsaved (product : String)
  deriving Repr, DecidableEq

/-- The wording of a refused argument. -/
def BadArgument.message : BadArgument → String
  | .blankTable => "表名不能为空"
  | .noColumns table => "表 " ++ table ++ " 的列值集合不能为空"
  | .noId method => "方法 " ++ method ++ " 需要一个主键参数"
  | .unsaved product => "商品 '" ++ product ++ "' 没有主键"

/-- What can go wrong in a query or a statement. Positions count characters from the start of the
method name. -/
inductive Error where
  | invalidName (method : String)
  | misplaced (method : String) (position : Nat) (what : Misplaced)
  | unknownField (method : String) (position : Nat)
  | insufficientArguments (method field : String) (index : Nat)
  | invalidArgument (why : BadArgument)
  | unknownMethod (method : String)
  | unbound
  deriving Repr, DecidableEq

/-- The wording of an error. -/
def Error.message : Error → String
  | .invalidName m => "方法名 '" ++ m ++ "' 无效: 必须以 '" ++ findBy ++ "' 开头且包含查询条件"
  | .misplaced m p what => "解析方法名 '" ++ m ++ "' 出错, 位置 " ++ toString p ++ ": " ++ what.message
  | .unknownField m p => "解析方法名 '" ++ m ++ "' 出错, 位置 " ++ toString p ++ ": 未知字段"
  | .insufficientArguments m f i =>
    "方法 '" ++ m ++ "' 参数不足: 字段 " ++ f ++ " 缺少第 " ++ toString i ++ " 个参数值"
  | .invalidArgument why => "参数无效: " ++ why.message
  | .unknownMethod m => "仓储不支持的方法: " ++ m
  | .unbound => "仓储实现尚未绑定实体元数据"

end BeanKit.Query
