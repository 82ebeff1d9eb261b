import ImageChain.Chain.Step
import ImageChain.Optimizer.Client
import ImageChain.Source.Catalog

/-!
# Services of a workspace

A workspace is what lasts from one step to the next: the sources in use, whose hosts take turns, and
the connections to optimizers.  The steps of a chain are served from it, over whatever stands for the
file system and the network.
-/

namespace ImageChain

/-- The sources in use and the connections that are kept. -/
structure Workspace (κ : Type) where
  /-- The sources in use. -/
  catalog : Catalog
  /-- The connections to optimizers. -/
  connections : ConnectionCache κ

namespace Workspace

variable {κ α : Type} {m : Type → Type} [Monad m]

/-- The workspace without any source or connection. -/
def empty : Workspace κ := ⟨.empty, .empty⟩

/-- An action on the sources as an action on the workspace. -/
def withCatalog (action : ExceptT Failure (StateT Catalog m) α) :
    ExceptT Failure (StateT (Workspace κ) m) α :=
  ExceptT.mk fun workspace => do
    let (result, catalog) ← action.run.run workspace.catalog
    return (result, { workspace with catalog := catalog })

/-- An action on the connections as an action on the workspace. -/
def withConnections (action : ExceptT Failure (StateT (ConnectionCache κ) m) α) :
    ExceptT Failure (StateT (Workspace κ) m) α :=
  ExceptT.mk fun workspace => do
    let (result, connections) ← action.run.run workspace.connections
    return (result, { workspace with connections := connections })

/-- What serves the steps of a chain whose sources are places in the catalog. -/
def services [Codecs] (backends : Backends m) (carrier : Carrier κ m) (rounding : Rounding) :
    Services Nat (StateT (Workspace κ) m) where
  find place parameters := withCatalog (Catalog.find backends place parameters)
  fetch url := ExceptT.mk (StateT.lift (Catalog.fetch backends url).run)
  optimize address request := withConnections (carrier.optimize address request)
  rounding := rounding

end Workspace

end ImageChain
