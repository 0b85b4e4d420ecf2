import BeanKit.Expansion.Entity
import BeanKit.Proofs.Outcome
import BeanKit.Proofs.Repository.Saving
import BeanKit.Proofs.Repository.Schema
/-! # The values that an entity saves

An entity is expanded to a descriptor with all of its fields and to a list of values for those that
have a column. Both are read off one list of fields, so that what is saved and what metadata know of
are the same: no value is passed over for want of a column, no column goes without a value, and the id
is always among them. -/

namespace BeanKit

open BeanKit.Query Repository

namespace Metadata

variable {d : Descriptor} {m : Metadata}

/-! ## Values of all mapped fields -/

section Save

variable {values : List (String × Value)}

end Save
end Metadata

namespace Expansion

open BeanKit.Declaration

/-! ## Fields as they are declared -/

namespace EntityField

end EntityField

namespace EntityExpansion

end EntityExpansion
end Expansion
end BeanKit
