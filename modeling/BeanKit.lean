import BeanKit.Main
import BeanKit.Container.Slot
import BeanKit.Declaration.Reading
import BeanKit.Expansion.Component
import BeanKit.Expansion.Entity
import BeanKit.Expansion.Interface
import BeanKit.Expansion.Repository
import BeanKit.Expansion.Setters
import BeanKit.Proofs.Query.Spelling
import BeanKit.Proofs.Query.Reading
import BeanKit.Proofs.Query.Acceptance
import BeanKit.Proofs.Query.MethodName
import BeanKit.Proofs.Container.Forecast
import BeanKit.Proofs.Container.Startup
import BeanKit.Proofs.Container.Wiring
import BeanKit.Proofs.Container.Criterion
import BeanKit.Proofs.Container.Injected
import BeanKit.Proofs.Container.FirstWrite
import BeanKit.Proofs.Container.Lookups
import BeanKit.Proofs.Container.Entities
import BeanKit.Proofs.Repository.Proxying
import BeanKit.Proofs.Container.Bindings
import BeanKit.Proofs.Container.BeanSet
import BeanKit.Proofs.Container.Reordering
import BeanKit.Proofs.Text.ByteOrder
import BeanKit.Proofs.Container.Lending
import BeanKit.Proofs.Container.FirstOfEach
import BeanKit.Proofs.Container.Inventory
import BeanKit.Proofs.Repository.Saving
import BeanKit.Proofs.Application.Assembly
import BeanKit.Proofs.Query.Diagnosis
import BeanKit.Proofs.Query.Separators
import BeanKit.Proofs.Query.FieldOrder
import BeanKit.Proofs.Text.Cutting
import BeanKit.Proofs.Query.CamelCase
import BeanKit.Proofs.Query.Arguments
import BeanKit.Proofs.Query.Statements
import BeanKit.Proofs.Repository.Schema
import BeanKit.Proofs.Repository.Directions
import BeanKit.Proofs.Repository.Cache
import BeanKit.Proofs.Container.RootSearch
import BeanKit.Proofs.Container.InterfaceSearch
import BeanKit.Proofs.Container.Stopping
import BeanKit.Proofs.Settings.Namespaces
import BeanKit.Proofs.Expansion.RegistrationNames
import BeanKit.Proofs.Outcome
import BeanKit.Proofs.Expansion.FieldValues
import BeanKit.Proofs.Expansion.Setters
import BeanKit.Proofs.Expansion.Forwarding
import BeanKit.Proofs.Query.Rounds
import BeanKit.Proofs.Repository.Blankness
import BeanKit.Proofs.Text.Trimming
import BeanKit.Proofs.Container.Identity
