import InterfaceSchema.Main
import InterfaceSchema.Proofs.Resolution.Dependencies
import InterfaceSchema.Proofs.Resolution.Extension
import InterfaceSchema.Proofs.Resolution.Frontier
import InterfaceSchema.Proofs.Resolution.Names
import InterfaceSchema.Proofs.Resolution.Plain
import InterfaceSchema.Proofs.Resolution.Renaming
import InterfaceSchema.Proofs.Resolution.Visits
import InterfaceSchema.Proofs.Resource.Exceptions
import InterfaceSchema.Proofs.Schema.Contents
import InterfaceSchema.Proofs.Schema.DeclarationOrder
import InterfaceSchema.Proofs.Schema.Events
import InterfaceSchema.Proofs.Schema.Idempotence
import InterfaceSchema.Proofs.Schema.Lookup
import InterfaceSchema.Proofs.TypeDef.Calls
import InterfaceSchema.Proofs.TypeDef.Dependencies
import InterfaceSchema.Proofs.Equality.Equivalence
import InterfaceSchema.Proofs.Equality.Respected
import InterfaceSchema.Proofs.Listing.Unambiguous
import InterfaceSchema.Proofs.CommandLine.Destination
import InterfaceSchema.Proofs.CommandLine.Refusals
