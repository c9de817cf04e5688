import ChatWarden.Main
import ChatWarden.TokenStream
import ChatWarden.Proofs.Access
import ChatWarden.Proofs.Admission
import ChatWarden.Proofs.Alignment
import ChatWarden.Proofs.Choices
import ChatWarden.Proofs.Closest
import ChatWarden.Proofs.DeclaredFilters
import ChatWarden.Proofs.Disclosure
import ChatWarden.Proofs.Enumerations
import ChatWarden.Proofs.Invocation
import ChatWarden.Proofs.NearMiss
import ChatWarden.Proofs.Noninterference
import ChatWarden.Proofs.Overloads
import ChatWarden.Proofs.Paging
import ChatWarden.Proofs.Placement
import ChatWarden.Proofs.Policy.Addressing
import ChatWarden.Proofs.Policy.Composition
import ChatWarden.Proofs.Policy.Kinds
import ChatWarden.Proofs.Policy.Layout
import ChatWarden.Proofs.Policy.Loading
import ChatWarden.Proofs.Policy.Progress
import ChatWarden.Proofs.Positions
import ChatWarden.Proofs.Reloading
import ChatWarden.Proofs.Reports
import ChatWarden.Proofs.Session
import ChatWarden.Proofs.Tightening
