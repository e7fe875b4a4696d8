import PathCall.Session
import PathCall.Filter.Bench
import PathCall.Json.Printer
import PathCall.Script.Behavior
import PathCall.Proofs.Access.Guard
import PathCall.Proofs.Address.BarePath
import PathCall.Proofs.CallStack.Execution
import PathCall.Proofs.CallStack.Segmentation
import PathCall.Proofs.CallStack.Outline
import PathCall.Proofs.Address.ElementPath
import PathCall.Proofs.CallStack.Bracketing
import PathCall.Proofs.Filter.Tree
import PathCall.Proofs.Filter.Pruning
import PathCall.Proofs.Filter.Caching
import PathCall.Proofs.Json.Remainder
import PathCall.Proofs.Filter.Documents
import PathCall.Proofs.Address.Scheme
import PathCall.Proofs.Address.Spelling
import PathCall.Proofs.Address.Verbatim
import PathCall.Proofs.CallStack.Reserved
import PathCall.Proofs.Resource.Requests
import PathCall.Proofs.Access.Audit
import PathCall.Proofs.Access.AuditedResource
import PathCall.Proofs.Access.Decisions
import PathCall.Proofs.Entity.DisplayedId
import PathCall.Proofs.Registry.Registrations
import PathCall.Proofs.Registry.Shelf
import PathCall.Proofs.Registry.Schemes
import PathCall.Proofs.Entity.SpelledName
import PathCall.Proofs.CallStack.Parent
import PathCall.Proofs.Filter.Recovery
import PathCall.Proofs.Scope.Nesting
import PathCall.Proofs.Access.DenyList
import PathCall.Proofs.Filter.KeyHistory
import PathCall.Proofs.Filter.SharedKeys
import PathCall.Proofs.Features.Clones
import PathCall.Proofs.Json.Members
import PathCall.Proofs.Json.Views
import PathCall.Proofs.Access.Configuration
import PathCall.Proofs.Filter.Depth
import PathCall.Proofs.Text.Sanitizing
import PathCall.Proofs.Json.Written
