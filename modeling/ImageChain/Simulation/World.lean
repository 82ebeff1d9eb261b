import ImageChain.Codec.Plain
import ImageChain.Offline
import ImageChain.Simulation.FileTree
import ImageChain.Timed
import ImageChain.Workspace

/-!
# A described world

Chains can be run in a world that is described instead of real.  Its files are described, its images
are read and written by the plain codecs, it has no network, and its clock moves only when something
waits.  Besides ordinary sources it has sources that follow a script, and the optimizer may follow
one too; the world keeps a record of what they are asked.
-/

namespace ImageChain

/-- What something that follows a script does when it is asked. -/
structure Script (α : Type) where
  /-- How long it waits before it answers. -/
  delay : Duration
  /-- Its answer. -/
  answer : Except Failure α

/-- A source of a described world. -/
inductive WorldSource where
  /-- A source that follows a script, by its own name and the one it is registered under.  Closing
  it may fail. -/
  | scripted (id name : String) (script : Script Image) (closing : Except Failure Unit)
  /-- An ordinary source, by its own name and its place in the catalog. -/
  | built (id : String) (place : Nat)

/-- The name of a source of its own, which stays the same wherever it is registered. -/
def WorldSource.id : WorldSource → String
  | scripted id _ _ _ => id
  | built id _ => id

/-- A described world. -/
structure World where
  /-- The files. -/
  files : FileTree
  /-- The ordinary sources in use and the connections. -/
  workspace : Workspace Unit
  /-- The registered sources. -/
  registry : Registry WorldSource
  /-- What scripted sources have been asked: their names and the parameters. -/
  lookups : List (String × List String)
  /-- What the scripted optimizer has been asked: the addresses and the requests. -/
  requests : List (String × Wire.Request)
  /-- The images after the steps that have succeeded. -/
  trace : List Image
  /-- The scripted sources that have been closed. -/
  closed : List String

namespace World

variable {α : Type}

/-- The world with some files in which nothing has happened. -/
def start (files : FileTree) : World := ⟨files, .empty, .empty, [], [], [], []⟩

/-- What performs requests in a described world.  Reading a file takes some time. -/
def backends (reading : Duration) : Backends (Timed World) :=
  .offline fun path => do
    Timed.sleep reading
    return (← Timed.world).files.read path

/-- An action on the workspace of a world. -/
def withWorkspace (action : ExceptT Failure (StateT (Workspace Unit) (Timed World)) α) :
    ExceptT Failure (Timed World) α := ExceptT.mk do
  let (result, workspace) ← action.run.run (← Timed.world).workspace
  Timed.change fun world => { world with workspace := workspace }
  return result

/-- An action on the catalog of a world. -/
def withCatalog (action : ExceptT Failure (StateT Catalog (Timed World)) α) :
    ExceptT Failure (Timed World) α :=
  withWorkspace (Workspace.withCatalog action)

/-- An action on the registry of a world. -/
def withRegistry (action : StateT (Registry WorldSource) (Timed World) α) : Timed World α := do
  let (result, registry) ← action.run (← Timed.world).registry
  Timed.change fun world => { world with registry := registry }
  return result

/-- Puts an ordinary source into the catalog and gives its place. -/
def place (source : Source) : Timed World Nat := do
  let catalog := (← Timed.world).workspace.catalog
  Timed.change fun world =>
    { world with workspace :=
        { world.workspace with catalog := ⟨catalog.sources.push source⟩ } }
  return catalog.sources.size

/-- Builds the source that an address describes. -/
def build (interval : Duration) (uri : String) : ExceptT Failure (Timed World) WorldSource := do
  return .built "built" (← withCatalog (Catalog.build (backends .zero) interval uri))

/-- Follows a script. -/
def follow (script : Script α) : ExceptT Failure (Timed World) α := ExceptT.mk do
  Timed.sleep script.delay
  return script.answer

/-- Changes the record of a world. -/
def note (f : World → World) : ExceptT Failure (Timed World) Unit :=
  ExceptT.lift (Timed.change f)

/-- Looks an image up in a source. -/
def find (source : WorldSource) (parameters : List String) :
    ExceptT Failure (Timed World) Image := do
  match source with
  | .built _ place => withCatalog (Catalog.find (backends .zero) place parameters)
  | .scripted _ name script _ =>
    note fun world => { world with lookups := world.lookups ++ [(name, parameters)] }
    follow script

/-- Closes a source. -/
def close (source : WorldSource) : Timed World (Except Failure Unit) := do
  match source with
  | .built _ _ => return .ok ()
  | .scripted id _ _ closing =>
    Timed.change fun world => { world with closed := world.closed ++ [id] }
    return closing

/-- What serves the steps of a chain in a described world.  Without a script, no optimizer can be
reached. -/
def services (rounding : Rounding) (optimizer : Option (Script (List UInt8))) :
    Services WorldSource (Timed World) :=
  let network := Workspace.services (backends .zero) Carrier.offline rounding
  { find := find
    fetch := fun url => withWorkspace (network.fetch url)
    optimize := fun address request => do
      match optimizer with
      | none => withWorkspace (network.optimize address request)
      | some script =>
        note fun world => { world with requests := world.requests ++ [(address, request)] }
        follow script
    rounding := rounding }

end World

end ImageChain
