import BeanKit.Sample.Types
/-!
# The shop

Products and users, with one service over both of their repositories.
-/

namespace BeanKit.Sample

open BeanKit.Query (Error)

/-- A product. -/
structure Product where
  id : Option Int
  name : String
  price : Double
  deriving Repr, DecidableEq

/-- A user of the shop. -/
structure User where
  id : Option Int
  username : String
  deriving Repr, DecidableEq

/-- The values of a product's fields. -/
def Product.values (p : Product) : List (String × Value) :=
  [("id", .ofOption .int p.id), ("name", .text p.name), ("price", .float p.price)]

/-- The values of a user's fields. -/
def User.values (u : User) : List (String × Value) :=
  [("id", .ofOption .int u.id), ("username", .text u.username)]

namespace Shop

/-- The name of a type of the shop, in the program of the given name. -/
def typeName (program type : String) : String := program ++ "::shop::" ++ type

/-- The name of the service. -/
def serviceName (program : String) : String := typeName program "ProductService"

/-- The types of the shop. -/
def definitions (program : String) : List Definition :=
  let product := typeName program "Product"
  let user := typeName program "User"
  let products := typeName program "ProductRepository"
  let users := typeName program "UserRepository"
  [entity product "products" [("id", "ID"), ("name", "NAME"), ("price", "PRICE")],
   entity user "users" [("id", "id"), ("username", "username")],
   repository products "i32" product,
   repository users "i64" user,
   service (serviceName program)
     [("set_product_repository", products), ("set_user_repository", users)]]

end Shop

/-- The service of the shop, with the repositories that it has been given. -/
structure ShopService where
  products : Option Proxy := none
  users : Option Proxy := none
  deriving Repr, DecidableEq

namespace ShopService

/-- The service that a bean is. -/
def ofBean (s : Instances) (b : Bean) : ShopService := ⟨injected? s b 0, injected? s b 1⟩

/-- Saves a product. -/
def saveProduct (s : ShopService) (p : Product) : Except Error String :=
  ask s.products (·.save p.values)

/-- Deletes a product, which has to have an id. -/
def deleteProduct (s : ShopService) (p : Product) : Except Error String :=
  match p.id with
  | some id => ask s.products (·.delete (.int id))
  | none => .error (.invalidArgument (.unsaved p.name))

/-- Products by name and price. -/
def findByNameAndPrice (s : ShopService) (name : String) (price : Double) : Except Error String :=
  ask s.products (·.invoke "findByNameAndPrice" [.text name, .float price])

/-- Products above one price or not below another. -/
def findInRange (s : ShopService) (max min : Double) : Except Error String :=
  ask s.products (·.invoke "findByPriceGreaterOrPriceNotLess" [.float max, .float min])

/-- Products from a price on, or with another name. -/
def findExcluding (s : ShopService) (price : Double) (name : String) : Except Error String :=
  ask s.products (·.invoke "findByPriceGreaterOrEqualOrNameNotEqual" [.float price, .text name])

/-- Saves a user. -/
def saveUser (s : ShopService) (u : User) : Except Error String := ask s.users (·.save u.values)

/-- Reads a user by id. -/
def getUser (s : ShopService) (id : Int) : Except Error String := ask s.users (·.getOne (.int id))

/-- The statements of a tour through the service. -/
def tour (s : ShopService) : Except Error (List String) :=
  let car : Product := ⟨some 1, "car", .ofDecimal false 15350 0⟩
  [s.saveProduct car,
   s.saveUser ⟨some 2, "admin"⟩,
   s.deleteProduct car,
   s.getUser 5,
   s.findByNameAndPrice "car" (.ofDecimal false 15350 0),
   s.findInRange (.ofDecimal false 10000 0) (.ofDecimal false 500 0),
   s.findExcluding (.ofDecimal false 100 0) "car"].mapM id

end ShopService
end BeanKit.Sample
