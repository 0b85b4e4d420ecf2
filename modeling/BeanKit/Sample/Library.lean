import BeanKit.Sample.Types
/-!
# The library

Books, with columns in snake case and dates among the arguments.
-/

namespace BeanKit.Sample

open BeanKit.Query (Error)

/-- A book. -/
structure Book where
  id : Option Int
  title : String
  author : String
  pages : Option Int
  published : Option Date
  deriving Repr, DecidableEq

/-- The values of a book's fields. -/
def Book.values (b : Book) : List (String × Value) :=
  [("id", .ofOption .int b.id), ("title", .text b.title), ("author_name", .text b.author),
   ("number_of_pages", .ofOption .int b.pages), ("publication_date", .ofOption .date b.published)]

namespace Library

/-- The name of a type of the library, in the program of the given name. -/
def typeName (program type : String) : String := program ++ "::library::" ++ type

/-- The name of the service. -/
def serviceName (program : String) : String := typeName program "BookService"

/-- The name of the repository interface. -/
def repositoryName (program : String) : String := typeName program "BookRepository"

/-- The types of the library. -/
def definitions (program : String) : List Definition :=
  let book := typeName program "Book"
  [entity book "book"
     [("id", "id"), ("title", "title"), ("author_name", "author_name"),
      ("number_of_pages", "number_of_pages"), ("publication_date", "publication_date")],
   repository (repositoryName program) "i32" book,
   service (serviceName program) [("set_book_repository", repositoryName program)]]

end Library

/-- The repository of books. -/
structure BookRepository where
  proxy : Proxy
  deriving Repr, DecidableEq

namespace BookRepository

/-- Books by title. -/
def findByTitle (r : BookRepository) (title : String) : Except Error String :=
  r.proxy.invoke "findByTitle" [.text title]

/-- Books by author. -/
def findByAuthor (r : BookRepository) (author : String) : Except Error String :=
  r.proxy.invoke "findByAuthorName" [.text author]

/-- Books by their number of pages. -/
def findByPages (r : BookRepository) (pages : Int) : Except Error String :=
  r.proxy.invoke "findByNumberOfPages" [.int pages]

/-- Books by the day of their publication. -/
def findByDate (r : BookRepository) (published : Date) : Except Error String :=
  r.proxy.invoke "findByPublicationDate" [.date published]

/-- Books by title and author. -/
def findByTitleAndAuthor (r : BookRepository) (title author : String) : Except Error String :=
  r.proxy.invoke "findByTitleAndAuthorName" [.text title, .text author]

/-- Books by their number of pages or the day of their publication. -/
def findByPagesOrDate (r : BookRepository) (pages : Int) (published : Date) :
    Except Error String :=
  r.proxy.invoke "findByNumberOfPagesOrPublicationDate" [.int pages, .date published]

end BookRepository

/-- The service of the library, with the repository that it has been given. -/
structure BookService where
  books : Option Proxy := none
  deriving Repr, DecidableEq

namespace BookService

/-- The service that a bean is. -/
def ofBean (s : Instances) (b : Bean) : BookService := ⟨injected? s b 0⟩

/-- The statements of a tour through the queries of the repository. -/
def tour (s : BookService) : Except Error (List String) :=
  match s.books with
  | none => .error .unbound
  | some proxy =>
    let r : BookRepository := ⟨proxy⟩
    [r.findByTitle "test title",
     r.findByAuthor "some author",
     r.findByPages 123,
     r.findByDate ⟨2018, 11, 26⟩,
     r.findByTitleAndAuthor "new title" "other author",
     r.findByPagesOrDate 321 ⟨2018, 1, 1⟩].mapM id

end BookService

end BeanKit.Sample
