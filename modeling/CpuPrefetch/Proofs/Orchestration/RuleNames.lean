/-
The rules a check can name.

The validators name their rules apart: only the checks on a pool and on the replacements in
it name the rules about identities, seeds and the budget.  A plan by itself is never faulted
under these, not even with a catalog that is not its own.
-/
import CpuPrefetch.Proofs.Orchestration.AcceptedRecords

namespace CpuPrefetch.Orchestration

open Protocol
open Protocol.Json (CharConv)

section Spares

variable {rules : List String} {first second : List ValidationError} {category : ErrorCategory}
  {path rule message : String}

end Spares

section Plan

variable {conv : CharConv} {sha256 : Text → Sha256} {registry : RoleNamespaceRegistry}
  {block : BlockPlan} {seeds : BlockSeedCatalog}

end Plan

section Ledger

variable {conv : CharConv} {sha256 : Text → Sha256} {blocks : List BlockPlan}
  {artifacts : List ArtifactAccessRecord} {namespaces : RoleNamespaceRegistry}
  {authorities : AuthorityPolicy}

end Ledger

/-! ### The replacements -/

end CpuPrefetch.Orchestration
